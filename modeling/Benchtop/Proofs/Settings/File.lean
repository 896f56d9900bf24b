import Benchtop.Proofs.Settings.Library
import Benchtop.Proofs.Text.Utf8
import Mathlib.Data.List.Nodup

/-!
# Settings in a file

A settings file has one line for each setting that has a value (`Settings.line?`). A document may hold
some of these lines, in any order, and other lines between them and behind them (`Settings.Mixture`).
The other lines are about other keys, so each line of the file is one more entry of the document that they
are (`Settings.Mixture.document`), whatever else it says.

Main statement: with any library as it is asked for, a file is written exactly for settings whose
milliseconds have 63 bits, and reading it gives the settings; a document with some lines of it and others
gives these settings, and the defaults of all others (`Settings.load_save`).
-/

namespace Benchtop.Settings

open Toml

/-! ## Lines -/

/-- The line of a setting in a file. -/
def line? (s : Settings) (key : Key) : Option String :=
  (s.value? key).map fun value => line key.name value

/-- The milliseconds have a place in a TOML document. -/
def Writable (s : Settings) : Prop :=
  s.timeoutMs.toNat ≤ 2 ^ 63 - 1 ∧ s.abortTimeoutMs.toNat ≤ 2 ^ 63 - 1 ∧
    s.pollIntervalMs.toNat ≤ 2 ^ 63 - 1

instance (s : Settings) : Decidable s.Writable := inferInstanceAs (Decidable (_ ∧ _ ∧ _))

/-- TOML has the values of settings if it has the milliseconds. -/
theorem writable_iff (s : Settings) :
    s.Writable ↔ ∀ key value, s.value? key = some value → value.Fits := by
  have h64 {n : Nat} : n ≤ 2 ^ 63 - 1 ↔ n < Nat.pow 2 63 := (Nat.lt_iff_le_pred (by decide)).symm
  have h32 (m : UInt32) : m.toNat < Nat.pow 2 63 := Nat.lt_trans m.toNat_lt (by decide)
  have h8 (m : UInt8) : m.toNat < Nat.pow 2 63 := Nat.lt_trans m.toNat_lt (by decide)
  rw [Writable, h64, h64, h64]
  constructor
  · rintro ⟨htimeout, habort, hpoll⟩ key value hvalue
    cases key with
    | timeoutMs => cases hvalue; exact htimeout
    | abortTimeoutMs => cases hvalue; exact habort
    | pollIntervalMs => cases hvalue; exact hpoll
    | maxStatusPolls => cases hvalue; exact h32 _
    | maxTransferSize => cases hvalue; exact h32 _
    | termChar =>
      obtain ⟨c, -, rfl⟩ := Option.map_eq_some_iff.1 hvalue
      exact h8 c
    | forceReconfigure | localLockout => cases hvalue; exact trivial
  · intro h
    exact ⟨h .timeoutMs _ rfl, h .abortTimeoutMs _ rfl, h .pollIntervalMs _ rfl⟩

/-! ## Documents with lines of a file -/

/-- A text from some header on, with the lines of these settings in it, and other statements. -/
inductive Mixture {ν : Type} (dialect : Dialect ν) (s : Settings) : (header : List String) →
    List Key → List (Statement ν) → List Char → Prop
  /-- The end of the text. -/
  | blank {header : List String} {text : List Char} (htext : skipSpace text = []) :
    Mixture dialect s header [] [] text
  /-- A line of the file. It stands under no header. -/
  | saved {keys : List Key} {others : List (Statement ν)} {rest : List Char} {key : Key}
    {line : String} (hline : s.line? key = some line) (hkey : key ∉ keys)
    (h : Mixture dialect s [] keys others rest) :
    Mixture dialect s [] (key :: keys) others (line.toList ++ rest)
  /-- Another line: a header or an entry of another key, an entry under such a header, or nothing. -/
  | other {header : List String} {keys : List Key} {others : List (Statement ν)}
    {line rest : List Char} {statement : Statement ν} (hline : line ≠ [])
    (hread : dialect.statement? (line ++ rest) = some (statement, rest))
    (hkey : ∀ name ∈ statement.topKey? header, ∀ key : Key, name ≠ key.name)
    (h : Mixture dialect s (statement.headerAfter header) keys others rest) :
    Mixture dialect s header keys (statement :: others) (line ++ rest)

section

variable {library : Library} {dialect : Dialect library.Node}

namespace Mixture

variable {s : Settings} {header : List String} {keys : List Key}
  {others : List (Statement library.Node)} {text : List Char}

/-- The other lines are about no settings. -/
theorem name_notMem_topKeys (h : Mixture dialect s header keys others text) (key : Key) :
    key.name ∉ topKeys header others := by
  induction h with
  | blank => exact List.not_mem_nil
  | saved _ _ _ ih => exact ih
  | other _ _ hkey _ ih =>
    rw [topKeys, List.mem_append, not_or, Option.mem_toList]
    exact ⟨fun hmem => hkey _ hmem key rfl, ih⟩

/-- After statements that go together with the other ones, a text is a document: the lines of the file are as
many more entries. -/
theorem document (hlibrary : library.Lawful dialect) (hs : s.Writable)
    (h : Mixture dialect s header keys others text) (before : List (Statement library.Node))
    (hheader : headerAfter before = header)
    (hnew : ∀ key ∈ keys, key.name ∉ topKeys [] (before ++ others))
    {entries : List (String × library.Node)} (hothers : dialect.define? (before ++ others) = some entries) :
    ∃ statements entries', dialect.Document statements text ∧
      dialect.define? (before ++ statements) = some entries' ∧
      ∀ key : Key, entries'.lookup key.name =
        if key ∈ keys then (s.value? key).map library.node else entries.lookup key.name := by
  induction h generalizing before entries with
  | blank htext => exact ⟨[], entries, .blank htext, hothers, fun key => by simp⟩
  | @saved keys others rest key _ hline hkey hmixture ih =>
    obtain ⟨value, hvalue, rfl⟩ := Option.map_eq_some_iff.1 hline
    let statement : Statement library.Node := .entry [key.name] (library.node value)
    obtain ⟨entries₁, hdefine, hlookup₁⟩ := hlibrary.define_insert hothers hheader
      (hnew key List.mem_cons_self) (library.node value)
    have hnew₁ : ∀ k ∈ keys, k.name ∉ topKeys [] ((before ++ [statement]) ++ others) := by
      intro k hk
      rw [List.append_assoc, List.singleton_append, mem_topKeys_insert hheader, not_or]
      have hne : k.name ≠ key.name := fun he => hkey (Key.name_injective he ▸ hk)
      exact ⟨hne, hnew k (List.mem_cons_of_mem _ hk)⟩
    obtain ⟨statements, entries₂, hdocument, hdefine₂, hlookup₂⟩ :=
      ih (before ++ [statement]) (by rw [headerAfter_concat, hheader]; rfl) hnew₁
        (by rw [List.append_assoc, List.singleton_append]; exact hdefine)
    have hread := hlibrary.statement?_line key.isBareName ((writable_iff s).1 hs key value hvalue) rest
    have hne : (line key.name value).toList ≠ [] := by simp [line]
    refine ⟨statement :: statements, entries₂, .statement hne hread hdocument, ?_, fun k => ?_⟩
    · rwa [List.append_assoc, List.singleton_append] at hdefine₂
    · rw [hlookup₂, hlookup₁]
      by_cases hk : k = key
      · simp [hk, hkey, hvalue]
      · have hname : k.name ≠ key.name := fun he => hk (Key.name_injective he)
        simp [hk, hname]
  | @other header keys others line rest statement hline hread hkey hmixture ih =>
    obtain ⟨statements, entries', hdocument, hdefine, hlookup⟩ :=
      ih (before ++ [statement]) (by rw [headerAfter_concat, hheader])
        (fun k hk => by rw [List.append_assoc]; exact hnew k hk)
        (by rw [List.append_assoc]; exact hothers)
    refine ⟨statement :: statements, entries', .statement hline hread hdocument, ?_, hlookup⟩
    rwa [List.append_assoc] at hdefine

end Mixture

/-! ## Documents -/

/-- The settings of some keys, and the defaults of all others. -/
def keep (s : Settings) (keys : List Key) : Settings :=
  let d : Settings := {}
  { timeoutMs := if .timeoutMs ∈ keys then s.timeoutMs else d.timeoutMs
    abortTimeoutMs := if .abortTimeoutMs ∈ keys then s.abortTimeoutMs else d.abortTimeoutMs
    pollIntervalMs := if .pollIntervalMs ∈ keys then s.pollIntervalMs else d.pollIntervalMs
    maxStatusPolls := if .maxStatusPolls ∈ keys then s.maxStatusPolls else d.maxStatusPolls
    maxTransferSize := if .maxTransferSize ∈ keys then s.maxTransferSize else d.maxTransferSize
    termChar := if .termChar ∈ keys then s.termChar else d.termChar
    forceReconfigure := if .forceReconfigure ∈ keys then s.forceReconfigure else d.forceReconfigure
    localLockout := if .localLockout ∈ keys then s.localLockout else d.localLockout }

theorem value?_keep (s : Settings) (keys : List Key) (key : Key) :
    (s.keep keys).value? key = if key ∈ keys then s.value? key else ({} : Settings).value? key := by
  cases key <;> simp only [keep, value?] <;> split <;> rfl

/-- Entries of some settings tell these, and the defaults of all others. -/
theorem tells_keep {s : Settings} (hs : s.Writable) {keys : List Key}
    {entries : List (String × library.Node)}
    (hlookup : ∀ key : Key, entries.lookup key.name =
      if key ∈ keys then (s.value? key).map library.node else none) :
    Tells library.node entries (s.keep keys) := by
  intro key
  rw [value?_keep, hlookup]
  split_ifs with hkey
  · cases hvalue : s.value? key with
    | none =>
      -- Only a term character has no value, and by default it has none.
      cases key with
      | termChar => exact .inl ⟨rfl, rfl⟩
      | _ => cases hvalue
    | some value => exact .inr ⟨value, rfl, (writable_iff s).1 hs key value hvalue, rfl⟩
  · exact .inl ⟨rfl, rfl⟩

/-- A document with lines of a file gives the settings of these lines. -/
theorem Mixture.load_encode (hlibrary : library.Lawful dialect) {s : Settings} (hs : s.Writable)
    {keys : List Key} {others : List (Statement library.Node)} {text : List Char}
    (h : Mixture dialect s [] keys others text) (hothers : (dialect.define? others).isSome) :
    load library (some (Text.encode text)) = .ok (s.keep keys) := by
  obtain ⟨entries, hdefine⟩ := Option.isSome_iff_exists.1 hothers
  obtain ⟨statements, entries', hdocument, hdefine', hlookup⟩ :=
    h.document hlibrary hs [] rfl (fun key _ => h.name_notMem_topKeys key) hdefine
  have hread : library.read? text = some entries' := (hlibrary.read?_eq hdocument).trans hdefine'
  have htells : Tells library.node entries' (s.keep keys) := by
    refine tells_keep hs fun key => ?_
    rw [hlookup, hlibrary.lookup_define hdefine (h.name_notMem_topKeys key)]
  rw [load, ofBytes, Text.decode?_encode]
  simp only
  rw [hread, Option.bind_some, hlibrary.deserialize?_eq htells]

/-! ## Saved files -/

/-- The lines of any settings, each once. -/
theorem mixture_lines (dialect : Dialect library.Node) (s : Settings) {keys : List Key}
    (hkeys : keys.Nodup) :
    Mixture dialect s [] (keys.filter fun key => (s.line? key).isSome) []
      (String.join (keys.filterMap s.line?)).toList := by
  induction keys with
  | nil => exact .blank rfl
  | cons key keys ih =>
    obtain ⟨hkey, hnodup⟩ := List.nodup_cons.1 hkeys
    cases hline : s.line? key with
    | none =>
      rw [List.filterMap_cons_none hline, List.filter_cons_of_neg (by simp [hline])]
      exact ih hnodup
    | some line =>
      rw [List.filterMap_cons_some hline, List.filter_cons_of_pos (by simp [hline])]
      have hjoin : (String.join (line :: keys.filterMap s.line?)).toList =
          line.toList ++ (String.join (keys.filterMap s.line?)).toList := by
        simp
      rw [hjoin]
      exact .saved hline (fun hmem => hkey (List.mem_of_mem_filter hmem)) (ih hnodup)

theorem keep_all (s : Settings) : s.keep (Key.all.filter fun key => (s.line? key).isSome) = s := by
  cases hterm : s.termChar <;> simp [keep, Key.mem_all, line?, value?, hterm] <;> rw [← hterm]

theorem mem_serialize (hlibrary : library.Lawful dialect) {s : Settings} {entry : String × Value} :
    entry ∈ library.serialize s ↔ ∃ key value, s.value? key = some value ∧ (key.name, value) = entry := by
  simp [hlibrary.serialize_eq, Key.mem_all]

theorem nodup_serialize (hlibrary : library.Lawful dialect) (s : Settings) :
    ((library.serialize s).map (·.1)).Nodup := by
  have hnames : (library.serialize s).map (·.1) =
      (Key.all.filter fun key => (s.value? key).isSome).map Key.name := by
    cases hterm : s.termChar <;> simp [hlibrary.serialize_eq, Key.all, value?, hterm]
  rw [hnames]
  exact List.Nodup.map (fun _ _ => Key.name_injective) (List.Nodup.filter _ (by decide))

/-- A file consists of the lines of its settings. -/
theorem toText?_eq (hlibrary : library.Lawful dialect) (s : Settings) :
    s.toText? library =
      if s.Writable then some (String.join (Key.all.filterMap s.line?)) else none := by
  rw [toText?]
  split_ifs with hs
  · have hfits : ∀ entry ∈ library.serialize s, IsBareName entry.1 ∧ entry.2.Fits := by
      intro entry hentry
      obtain ⟨key, value, hvalue, rfl⟩ := (mem_serialize hlibrary).1 hentry
      exact ⟨key.isBareName, (writable_iff s).1 hs key value hvalue⟩
    rw [hlibrary.write?_eq (nodup_serialize hlibrary s) hfits, hlibrary.serialize_eq, List.map_filterMap]
    simp only [Option.map_map]
    rfl
  · rw [writable_iff] at hs
    push Not at hs
    obtain ⟨key, value, hvalue, hunfit⟩ := hs
    exact hlibrary.write?_eq_none ⟨_, (mem_serialize hlibrary).2 ⟨key, value, hvalue, rfl⟩, hunfit⟩

/-- Settings with milliseconds of 63 bits are written as lines, and read as they were. Some of these
lines, in any order, together with others that are a document about other keys, are read as these
settings and the defaults of all others. Other settings are not written, and the file stays as it is. -/
theorem load_save (hlibrary : library.Lawful dialect) (s : Settings) (file : File) :
    (s.Writable →
      (∃ saved, s.save library file = (true, some saved) ∧
        saved = Text.bytesOf (String.join (Key.all.filterMap s.line?)) ∧
        load library (some saved) = .ok s) ∧
      ∀ keys others text, Mixture dialect s [] keys others text → (dialect.define? others).isSome →
        load library (some (Text.encode text)) = .ok (s.keep keys)) ∧
    (¬ s.Writable → s.save library file = (false, file)) := by
  refine ⟨fun hs => ⟨⟨_, ?_, rfl, ?_⟩, fun _ _ _ hmixture => hmixture.load_encode hlibrary hs⟩,
    fun hs => ?_⟩
  · rw [save, toText?_eq hlibrary, if_pos hs]
  · have hload := (mixture_lines dialect s (by decide : Key.all.Nodup)).load_encode hlibrary hs
      hlibrary.isSome_define_nil
    rwa [keep_all] at hload
  · rw [save, toText?_eq hlibrary, if_neg hs]

end

/-- Two lines of a file with a comment, an unknown key, and an unknown table in which a known name means
nothing. -/
theorem load_save_panel :
    let text := "# bench 3\n" ++ ("local_lockout = true\n" ++ ("colour = 3\n" ++
      ("term_char = 10\n" ++ ("[panel]\n" ++ "timeout_ms = 7\n"))))
    load .toml (some (Text.bytesOf text)) = .ok { termChar := some 10, localLockout := true } := by
  intro text
  let s : Settings := { timeoutMs := 250, termChar := some 10, localLockout := true }
  have hlockout : s.line? .localLockout = some "local_lockout = true\n" := by decide
  have hterm : s.line? .termChar = some "term_char = 10\n" := by decide
  let colour : Statement Node := .entry ["colour"] (.integer 3)
  let entry : Statement Node := .entry ["timeout_ms"] (.integer 7)
  have hthree (rest : List Char) :
      Toml.dialect.statement? ((line "colour" (.natural 3)).toList ++ rest) = some (colour, rest) :=
    statement?_line (by decide) (by decide) rest
  have hseven (rest : List Char) :
      Toml.dialect.statement? ((line "timeout_ms" (.natural 7)).toList ++ rest) = some (entry, rest) :=
    statement?_line (by decide) (by decide) rest
  have hentry : Mixture Toml.dialect s ["panel"] [] [entry] ("timeout_ms = 7\n".toList ++ []) :=
    .other (by decide) (hseven _) (by rintro _ ⟨⟩ key; cases key <;> decide) (.blank rfl)
  have htable : Mixture Toml.dialect s [] [] [.table ["panel"], entry]
      ("[panel]\n".toList ++ ("timeout_ms = 7\n".toList ++ [])) :=
    .other (by decide) rfl (by rintro _ ⟨⟩ key; cases key <;> decide) hentry
  have hcolour : Mixture Toml.dialect s [] [.termChar] [colour, .table ["panel"], entry]
      ("colour = 3\n".toList ++ ("term_char = 10\n".toList ++
        ("[panel]\n".toList ++ ("timeout_ms = 7\n".toList ++ [])))) :=
    .other (by decide) (hthree _) (by rintro _ ⟨⟩ key; cases key <;> decide)
      (.saved hterm (by decide) htable)
  have hcomment : Mixture Toml.dialect s [] [.localLockout, .termChar]
      [.nothing, colour, .table ["panel"], entry]
      ("# bench 3\n".toList ++ ("local_lockout = true\n".toList ++ _)) :=
    .other (by decide) rfl nofun (.saved hlockout (by decide) hcolour)
  have hload := ((load_save lawful_toml s none).1 (by decide)).2 _ _ _ hcomment rfl
  have htext : text.toList = "# bench 3\n".toList ++ ("local_lockout = true\n".toList ++
      ("colour = 3\n".toList ++ ("term_char = 10\n".toList ++
        ("[panel]\n".toList ++ ("timeout_ms = 7\n".toList ++ []))))) := by
    simp only [text, String.toList_append, List.append_nil]
  rw [Text.bytesOf, htext, hload]
  rfl

end Benchtop.Settings
