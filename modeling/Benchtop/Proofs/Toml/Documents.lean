import Benchtop.Proofs.Toml.Lines

/-!
# The documents that are read

The reader takes a document statement by statement, so the entries it gives are those that the statements
make when they are applied in order (`read?_of_document`).

Main statement: what the reader takes for a document, and the entries it makes of one, are a dialect as TOML
has it (`lawful_dialect`).
-/

namespace Benchtop.Toml

/-! ## Statements in order -/

/-- Applies statements one after the other. -/
def applyAll (statements : List (Statement Node)) (reading : Reading) : Option Reading :=
  statements.foldlM Statement.apply reading

/-- The documents of the reader. -/
def dialect : Dialect Node where
  statement? text := Statement.read? (skipSpace text)
  define? statements := (applyAll statements {}).map Reading.entries

section

variable {statements before after : List (Statement Node)} {reading reading' : Reading}

theorem applyAll_cons (statement : Statement Node) :
    applyAll (statement :: statements) reading =
      (statement.apply reading).bind (applyAll statements) := rfl

theorem applyAll_append :
    applyAll (before ++ after) reading = (applyAll before reading).bind (applyAll after) :=
  List.foldlM_append

theorem applyAll_header (h : applyAll statements reading = some reading') :
    reading'.header = statements.foldl Statement.headerAfter reading.header := by
  induction statements generalizing reading with
  | nil =>
    cases h
    rfl
  | cons statement statements ih =>
    obtain ⟨next, hnext, h⟩ := Option.bind_eq_some_iff.1 h
    rw [ih h, Statement.apply_header hnext, List.foldl_cons]

/-- A key that no statement is about keeps its entry. -/
theorem lookup_applyAll (h : applyAll statements reading = some reading') {key : String}
    (hkey : key ∉ topKeys reading.header statements) :
    reading'.entries.lookup key = reading.entries.lookup key := by
  induction statements generalizing reading with
  | nil =>
    cases h
    rfl
  | cons statement statements ih =>
    obtain ⟨next, hnext, h⟩ := Option.bind_eq_some_iff.1 h
    rw [topKeys, List.mem_append, not_or, Option.mem_toList] at hkey
    rw [ih h (by rw [Statement.apply_header hnext]; exact hkey.2)]
    exact Statement.lookup_apply hnext hkey.1

/-- Entries of other keys do not keep statements from being applied, and stay as they are. -/
theorem Reading.Beside.applyAll {names : List String} {other full other' : Reading}
    (h : Reading.Beside names other full) (hkey : ∀ key ∈ topKeys other.header statements, key ∉ names)
    (hother : applyAll statements other = some other') :
    ∃ full', Toml.applyAll statements full = some full' ∧ Reading.Beside names other' full' ∧
      ∀ key ∈ names, full'.entries.lookup key = full.entries.lookup key := by
  induction statements generalizing other full with
  | nil =>
    cases hother
    exact ⟨full, rfl, h, fun _ _ => rfl⟩
  | cons statement statements ih =>
    obtain ⟨next, hnext, hother⟩ := Option.bind_eq_some_iff.1 hother
    rw [topKeys, List.forall_mem_append] at hkey
    obtain ⟨full₁, hfull₁, hbeside, hsame₁⟩ :=
      h.apply (fun key hk => hkey.1 key (Option.mem_toList.2 hk)) hnext
    obtain ⟨full₂, hfull₂, hbeside, hsame₂⟩ :=
      ih hbeside (by rw [Statement.apply_header hnext]; exact hkey.2) hother
    refine ⟨full₂, ?_, hbeside, fun key hk => (hsame₂ key hk).trans (hsame₁ key hk)⟩
    rw [applyAll_cons, hfull₁]
    exact hfull₂

end

/-! ## Reading documents -/

theorem readLines_succ {input : List Char} {statement : Statement Node} {rest : List Char}
    (hread : Statement.read? (skipSpace input) = some (statement, rest)) (fuel : Nat)
    (reading : Reading) :
    readLines (fuel + 1) reading input =
      (statement.apply reading).bind fun reading => readLines fuel reading rest := by
  rw [readLines]
  split
  · next hnil =>
    rw [hnil] at hread
    cases hread
  · rw [readLine_eq, hread, Option.bind_some]
    dsimp only
    cases statement.apply reading <;> rfl

/-- The lines of a document make what its statements make in their order. -/
theorem readLines_of_document {statements : List (Statement Node)} {text : List Char}
    (h : dialect.Document statements text) {fuel : Nat} (hfuel : text.length < fuel)
    (reading : Reading) :
    readLines fuel reading text = (applyAll statements reading).map Reading.entries := by
  induction h generalizing fuel reading with
  | blank htext =>
    obtain ⟨fuel, rfl⟩ := Nat.exists_eq_succ_of_ne_zero (Nat.ne_zero_of_lt hfuel)
    rw [readLines, htext]
    rfl
  | @statement line rest statement statements hline hread _ ih =>
    obtain ⟨fuel, rfl⟩ := Nat.exists_eq_succ_of_ne_zero (Nat.ne_zero_of_lt hfuel)
    have hlength : rest.length < fuel := by
      have := List.length_pos_iff.2 hline
      rw [List.length_append] at hfuel
      omega
    rw [readLines_succ hread, applyAll_cons, Option.map_bind]
    exact congrArg (Option.bind _) (funext fun reading => ih hlength reading)

/-- No document begins with a byte order mark. -/
theorem not_document_mark {statements : List (Statement Node)} {rest : List Char} :
    ¬ dialect.Document statements ('\uFEFF' :: rest) := by
  intro h
  generalize htext : '\uFEFF' :: rest = text at h
  cases h with
  | blank hblank =>
    rw [← htext] at hblank
    cases hblank
  | statement _ hread _ =>
    rw [← htext] at hread
    cases hread

theorem read?_of_document {statements : List (Statement Node)} {text : List Char}
    (h : dialect.Document statements text) : read? text = dialect.define? statements := by
  have hlines := readLines_of_document h (Nat.lt_succ_self _) {}
  cases text with
  | nil => exact hlines
  | cons c rest =>
    have hmark : c.toNat ≠ 0xFEFF := by
      intro hc
      obtain rfl : c = '\uFEFF' := by rw [← Char.ofNat_toNat c, hc]
      exact not_document_mark h
    rw [read?]
    simp only [if_neg hmark]
    exact hlines

/-! ## The dialect -/

theorem lawful_dialect : dialect.Lawful where
  isSome_define_nil := rfl
  lookup_define := by
    intro statements entries key h hkey
    obtain ⟨reading, hreading, rfl⟩ := Option.map_eq_some_iff.1 h
    rw [lookup_applyAll hreading hkey]
    rfl
  define_insert := by
    intro before after entries key h hheader hkey value
    obtain ⟨last, hlast, rfl⟩ := Option.map_eq_some_iff.1 h
    rw [applyAll_append] at hlast
    obtain ⟨reading, hreading, hafter⟩ := Option.bind_eq_some_iff.1 hlast
    rw [topKeys_append, List.mem_append, not_or,
      show before.foldl Statement.headerAfter [] = [] from hheader] at hkey
    have hroot : reading.header = [] := (applyAll_header hreading).trans hheader
    have hnew : reading.entries.lookup key = none := lookup_applyAll hreading hkey.1
    have happly : (Statement.entry [key] value).apply reading =
        some ⟨reading.entries.put key value, []⟩ := by
      rw [Statement.apply, hroot, Entries.alter, Entries.insert_of_none hnew]
      rfl
    -- The rest of the statements are applied beside the new entry.
    have hbeside : Reading.Beside [key] reading ⟨reading.entries.put key value, []⟩ := by
      refine ⟨hroot.symm, fun name hname => ?_⟩
      rw [Entries.lookup_put, if_neg (fun he => hname (List.mem_singleton.2 he))]
    have hforeign : ∀ name ∈ topKeys reading.header after, name ∉ [key] := by
      intro name hname hmem
      rw [hroot, List.mem_singleton.1 hmem] at hname
      exact hkey.2 hname
    obtain ⟨full, hfull, hbeside', hsame⟩ := hbeside.applyAll hforeign hafter
    refine ⟨full.entries, ?_, fun name => ?_⟩
    · change Option.map _ (applyAll _ _) = _
      rw [applyAll_append, hreading, Option.bind_some, applyAll_cons, happly, Option.bind_some, hfull]
      rfl
    · split_ifs with hname
      · rw [hname, hsame key List.mem_cons_self, Entries.lookup_put, if_pos rfl]
      · exact hbeside'.lookup name (fun hmem => hname (List.mem_singleton.1 hmem))

end Benchtop.Toml
