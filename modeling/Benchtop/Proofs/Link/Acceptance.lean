import Benchtop.Proofs.Link.Moves
import Benchtop.Proofs.Link.Reading

/-!
# What is accepted as a message

The converse of reassembly: a message that was read has come in envelopes that answered the requests of
this reading one by one, the last of them marked as the last, and nothing else has become part of it
(`Reading.accepted`). All other outcomes are failures. After some envelopes in order, a request was not
sent or not answered as it should be (`Refused`), and the failure says how; or the envelopes go on
for ever (`Endless`).

Main statement: whatever a device sends, reading a message has one of these three outcomes
(`reading_readMessage`).
-/

namespace Benchtop.Link

open Usb Wire

variable {σ : Type} {dev : Device σ}

/-! ## What is read -/

/-- A request for data that fails. -/
def failedRequest (link : Link) (tag : UInt8) (error : BusError) : Event where
  call := .bulkOut link.endpoints.bulkOut (requestBytes link tag) link.timing.timeout
  answer := .error error

/-- A transfer of the device that fails. -/
def failedTransfer (link : Link) (error : BusError) : Event where
  call := .bulkIn link.endpoints.bulkIn (link.maxTransferSize.toNat + headerSize + 3)
    link.timing.timeout
  answer := .error error

/-- What comes of the request `tag` when it is not sent or not answered as it should be, and the failure
that this is. -/
inductive Refused (link : Link) (tag : UInt8) : List Event → Failure → Prop
  | request (error : BusError) : Refused link tag [failedRequest link tag error] (.bus error)
  /-- A transfer fails, the first one or one of those that continue it. -/
  | transfer (taken : Nat) (transfers : List (List UInt8)) (error : BusError) :
    Refused link tag
      (requested link tag taken :: transfers.map (received link) ++ [failedTransfer link error])
      (.bus error)
  /-- The first transfer does not begin with the envelope of data. -/
  | badEnvelope (taken : Nat) {transfer : List UInt8} {error : EnvelopeError}
    (h : Envelope.parse transfer .dataIn = .error error) :
    Refused link tag [requested link tag taken, received link transfer] (.badEnvelope error)
  /-- The envelope answers another request. -/
  | foreign (taken : Nat) {transfer : List UInt8} {e : Envelope}
    (h : Envelope.parse transfer .dataIn = .ok e) (htag : e.tag ≠ tag) :
    Refused link tag [requested link tag taken, received link transfer] (.tagMismatch tag e.tag)
  /-- A transfer is empty while bytes are still missing. -/
  | endedEarly (taken : Nat) {transfer : List UInt8} {e : Envelope} (more : List (List UInt8))
    (h : Envelope.parse transfer .dataIn = .ok e) (htag : e.tag = tag)
    (hlt : (transfer.drop headerSize ++ more.flatten).length < e.size.toNat) :
    Refused link tag (requested link tag taken :: (transfer :: more ++ [[]]).map (received link))
      (.badAnswer (.endedEarly (transfer.drop headerSize ++ more.flatten).length e.size.toNat))

/-- The deliveries answer the requests after `tags`, and none of them ends the message. -/
def Continued : TagCounter → List Delivery → Prop
  | _, [] => True
  | tags, d :: ds => d.Answers tags.next.current false ∧ Continued tags.next ds

/-- How the reading of a message comes to its end. -/
inductive Reading (dev : Device σ) (c : Connection σ) :
    Except Failure (List UInt8) × Connection σ → Prop
  /-- Envelopes that answer the requests are all that is fetched, and their payloads are the message. -/
  | accepted {ds : List Delivery} {t : σ} (hne : ds ≠ []) (ha : Answer c.link.tags ds)
    (ht : dev.Trace c.device (exchange c.link c.link.tags ds) t) :
    Reading dev c (.ok (ds.flatMap (·.payload)),
      ⟨{ c.link with tags := TagCounter.next^[ds.length] c.link.tags }, t⟩)
  /-- After such envelopes, a request is refused. Recovery follows if that was for a timeout. -/
  | refused {ds : List Delivery} {events recovery : List Event} {failure : Failure}
    {c' : Connection σ} (ha : Continued c.link.tags ds)
    (hr : Refused c.link (TagCounter.next^[ds.length + 1] c.link.tags).current events failure)
    (hrecovery : failure.isTimeout ∨ recovery = [])
    (ht : dev.Trace c.device (exchange c.link c.link.tags ds ++ (events ++ recovery)) c'.device) :
    Reading dev c (.error failure, c')

/-- The device answers request after request, and never ends the message. -/
def Endless (dev : Device σ) (c : Connection σ) : Prop :=
  ∀ n, ∃ ds t, ds.length = n ∧ Continued c.link.tags ds ∧
    dev.Trace c.device (exchange c.link c.link.tags ds) t

/-! ## Transfers -/

/-- The recovery from a timeout is calls of the device. -/
theorem exists_recovery {recover : Connection σ → Connection σ}
    (h : ∀ c, Moves dev c (recover c)) (error : BusError) (c : Connection σ) :
    ∃ recovery, dev.Trace c.device recovery (if error.isTimeout then recover c else c).device ∧
      (error.isTimeout ∨ recovery = []) := by
  by_cases he : error.isTimeout
  · obtain ⟨recovery, ht, -⟩ := (h c).exists_trace
    exact ⟨recovery, by rwa [if_pos he], .inl he⟩
  · exact ⟨[], by rw [if_neg he]; rfl, .inr rfl⟩

theorem send_cases (dev : Device σ) (tag : UInt8) (c : Connection σ) :
    (∃ taken t, dev.Trace c.device [requested c.link tag taken] t ∧
      send dev tag (requestBytes c.link tag) c = (.ok (), ⟨c.link, t⟩)) ∨
    ∃ error recovery c', dev.Trace c.device (failedRequest c.link tag error :: recovery) c'.device ∧
      (error.isTimeout ∨ recovery = []) ∧
      send dev tag (requestBytes c.link tag) c = (.error (.bus error), c') := by
  rw [send_apply, attempt]
  rcases h : dev.perform (.bulkOut c.link.endpoints.bulkOut (requestBytes c.link tag)
    c.link.timing.timeout) c.device with ⟨error | taken, t⟩
  · have habort : Respects (Moves dev) (abortOut dev tag) := respects_moves fun _ => moves_abortOut tag
    obtain ⟨recovery, ht, hrecovery⟩ := exists_recovery habort error ⟨c.link, t⟩
    exact .inr ⟨error, recovery, _, ⟨t, h, ht⟩, hrecovery, rfl⟩
  · exact .inl ⟨taken, t, ⟨t, h, rfl⟩, rfl⟩

theorem receive_cases (dev : Device σ) (tag : UInt8) (c : Connection σ) :
    (∃ transfer t, dev.Trace c.device [received c.link transfer] t ∧
      receive dev tag c = (.ok transfer, ⟨c.link, t⟩)) ∨
    ∃ error recovery c', dev.Trace c.device (failedTransfer c.link error :: recovery) c'.device ∧
      (error.isTimeout ∨ recovery = []) ∧ receive dev tag c = (.error (.bus error), c') := by
  rw [receive_apply, attempt]
  rcases h : dev.perform (.bulkIn c.link.endpoints.bulkIn
    (c.link.maxTransferSize.toNat + headerSize + 3) c.link.timing.timeout) c.device with
    ⟨error | transfer, t⟩
  · have habort : Respects (Moves dev) (abortIn dev tag) := respects_moves fun _ => moves_abortIn tag
    obtain ⟨recovery, ht, hrecovery⟩ := exists_recovery habort error ⟨c.link, t⟩
    exact .inr ⟨error, recovery, _, ⟨t, h, ht⟩, hrecovery, rfl⟩
  · exact .inl ⟨transfer, t, ⟨t, h, rfl⟩, rfl⟩

/-! ## One envelope -/

/-- The outcomes of reading on until `need` bytes are there. -/
inductive ReadingOn (dev : Device σ) (need : Nat) (data : List UInt8) (c : Connection σ) :
    Except Failure (List UInt8) × Connection σ → Prop
  /-- The transfers are not empty, and all of them are needed. -/
  | complete {more : List (List UInt8)} {t : σ} (hne : ∀ transfer ∈ more, transfer ≠ [])
    (hlt : more ≠ [] → (data ++ more.dropLast.flatten).length < need)
    (hle : need ≤ (data ++ more.flatten).length)
    (ht : dev.Trace c.device (more.map (received c.link)) t) :
    ReadingOn dev need data c (.ok (data ++ more.flatten), ⟨c.link, t⟩)
  | failed {more : List (List UInt8)} {error : BusError} {recovery : List Event}
    {c' : Connection σ} (hrecovery : error.isTimeout ∨ recovery = [])
    (ht : dev.Trace c.device
      (more.map (received c.link) ++ failedTransfer c.link error :: recovery) c'.device) :
    ReadingOn dev need data c (.error (.bus error), c')
  | endedEarly {more : List (List UInt8)} {t : σ} (hlt : (data ++ more.flatten).length < need)
    (ht : dev.Trace c.device ((more ++ [[]]).map (received c.link)) t) :
    ReadingOn dev need data c
      (.error (.badAnswer (.endedEarly (data ++ more.flatten).length need)), ⟨c.link, t⟩)

/-- One more transfer. -/
theorem ReadingOn.cons {need : Nat} {data transfer : List UInt8} {c : Connection σ} {t : σ}
    {outcome : Except Failure (List UInt8) × Connection σ} (hne : transfer ≠ [])
    (hneed : data.length < need) (ht : dev.Trace c.device [received c.link transfer] t)
    (h : ReadingOn dev need (data ++ transfer) ⟨c.link, t⟩ outcome) :
    ReadingOn dev need data c outcome := by
  cases h with
  | @complete more t hmore hlt hle htrace =>
    rw [List.append_assoc, ← List.flatten_cons] at hle ⊢
    refine .complete (List.forall_mem_cons.2 ⟨hne, hmore⟩) (fun _ => ?_) hle (ht.append htrace)
    cases more with
    | nil => simpa using hneed
    | cons next more =>
      rw [List.dropLast_cons_of_ne_nil (List.cons_ne_nil _ _), List.flatten_cons,
        ← List.append_assoc]
      exact hlt (List.cons_ne_nil _ _)
  | @failed more _ _ _ hrecovery htrace =>
    have hall := ht.append htrace
    rw [← List.append_assoc, List.singleton_append, ← List.map_cons] at hall
    exact .failed hrecovery hall
  | @endedEarly more _ hlt htrace =>
    rw [List.append_assoc, ← List.flatten_cons] at hlt ⊢
    exact .endedEarly hlt (ht.append htrace)

theorem readingOn_readAll (dev : Device σ) (tag : UInt8) (need : Nat) (data : List UInt8)
    (c : Connection σ) : ReadingOn dev need data c (readAll dev tag need data c) := by
  fun_induction readAll dev tag need data generalizing c with
  | case1 data hle =>
    have h : ReadingOn dev need data c (.ok (data ++ [].flatten), ⟨c.link, c.device⟩) :=
      .complete (by simp) (by simp) (by simpa using hle) rfl
    rwa [List.flatten_nil, List.append_nil] at h
  | case2 data hlt ih =>
    have hneed : data.length < need := Nat.lt_of_not_le hlt
    rw [bind_apply]
    rcases receive_cases dev tag c with ⟨transfer, t, ht, hr⟩ | ⟨error, recovery, c', ht, hrec, hr⟩
    · rw [hr]
      dsimp only
      split
      · next hempty =>
        subst hempty
        have h : ReadingOn dev need data c
            (.error (.badAnswer (.endedEarly (data ++ [].flatten).length need)), ⟨c.link, t⟩) :=
          .endedEarly (by simpa using hneed) ht
        rwa [List.flatten_nil, List.append_nil] at h
      · next hne => exact (ih transfer hne ⟨c.link, t⟩).cons hne hneed ht
    · rw [hr]
      have hfirst : dev.Trace c.device
          ([].map (received c.link) ++ failedTransfer c.link error :: recovery) c'.device := ht
      exact .failed hrec hfirst

/-- The outcomes of reading one envelope. -/
inductive ReadingEnvelope (dev : Device σ) (c : Connection σ) :
    Except Failure (List UInt8 × Bool) × Connection σ → Prop
  | accepted {d : Delivery} {isLast : Bool} {t : σ}
    (ha : d.Answers c.link.tags.next.current isLast)
    (ht : dev.Trace c.device
      (requested c.link c.link.tags.next.current d.taken :: d.transfers.map (received c.link)) t) :
    ReadingEnvelope dev c (.ok (d.payload, isLast), ⟨{ c.link with tags := c.link.tags.next }, t⟩)
  | refused {events recovery : List Event} {failure : Failure} {c' : Connection σ}
    (hr : Refused c.link c.link.tags.next.current events failure)
    (hrecovery : failure.isTimeout ∨ recovery = [])
    (ht : dev.Trace c.device (events ++ recovery) c'.device) :
    ReadingEnvelope dev c (.error failure, c')

/-- What is left out of the payload at the end of the last transfer is no part of it. -/
theorem Delivery.answers_take (taken : Nat) {transfer : List UInt8} {more : List (List UInt8)}
    {e : Envelope} (hp : Envelope.parse transfer .dataIn = .ok e)
    (hne : ∀ transfer ∈ more, transfer ≠ [])
    (hlt : more ≠ [] →
      (transfer.drop headerSize ++ more.dropLast.flatten).length < e.size.toNat)
    (hle : e.size.toNat ≤ (transfer.drop headerSize ++ more.flatten).length) :
    (Delivery.mk taken (transfer.take headerSize)
      ((transfer.drop headerSize ++ more.flatten).take e.size.toNat) (transfer.drop headerSize)
      more).Answers e.tag e.endOfMessage := by
  have hlength : (transfer.take headerSize).length = headerSize :=
    List.length_take_of_le (Envelope.headerSize_le_of_parse hp)
  have hpayload : ((transfer.drop headerSize ++ more.flatten).take e.size.toNat).length =
      e.size.toNat := List.length_take_of_le hle
  constructor
  case length_header => exact hlength
  case parse_header =>
    have hheader := Envelope.parse_append (Nat.le_of_eq hlength.symm) (transfer.drop headerSize)
      .dataIn
    rw [List.take_append_drop, hp] at hheader
    refine ⟨e.termChar, ?_⟩
    rw [← hheader, hpayload, UInt32.ofNat_toNat, ← Envelope.kind_of_parse hp]
  case length_payload_lt =>
    rw [hpayload]
    exact e.size.toNat_lt
  case payload_prefix => exact List.take_prefix _ _
  case ne_nil => exact hne
  case length_lt =>
    rw [hpayload]
    exact hlt

/-- The first transfer answers the request, or the request is refused. -/
theorem requestData_cases (dev : Device σ) (c : Connection σ) :
    (∃ taken transfer e t,
      dev.Trace c.device
        [requested c.link c.link.tags.next.current taken, received c.link transfer] t ∧
      Envelope.parse transfer .dataIn = .ok e ∧ e.tag = c.link.tags.next.current ∧
      requestData dev c = (.ok ⟨e, transfer.drop headerSize, c.link.tags.next.current⟩,
        ⟨{ c.link with tags := c.link.tags.next }, t⟩)) ∨
    ∃ events recovery failure c', Refused c.link c.link.tags.next.current events failure ∧
      (failure.isTimeout ∨ recovery = []) ∧ dev.Trace c.device (events ++ recovery) c'.device ∧
      requestData dev c = (.error failure, c') := by
  have hdrawn : requestData dev c = _ :=
    (bind_of_ok (nextTag_apply c)).trans (get_bind_apply _ _)
  rcases send_cases dev c.link.tags.next.current { c with link.tags := c.link.tags.next } with
    ⟨taken, t, ht, hs⟩ | ⟨error, recovery, c', ht, hrecovery, hs⟩
  · have hsent : requestData dev c = _ := hdrawn.trans (bind_of_ok hs)
    rcases receive_cases dev c.link.tags.next.current
      ⟨{ c.link with tags := c.link.tags.next }, t⟩ with
      ⟨transfer, u, hu, hr⟩ | ⟨error, recovery, c', hu, hrecovery, hr⟩
    · have hreceived : requestData dev c = _ := hsent.trans (bind_of_ok hr)
      have htrace := ht.append hu
      cases hp : Envelope.parse transfer .dataIn with
      | error error =>
        simp only [hp] at hreceived
        exact .inr ⟨_, [], _, _, .badEnvelope taken hp, .inr rfl, by rwa [List.append_nil],
          hreceived⟩
      | ok e =>
        simp only [hp] at hreceived
        by_cases htag : e.tag = c.link.tags.next.current
        · rw [if_neg (not_not_intro htag)] at hreceived
          exact .inl ⟨taken, transfer, e, u, htrace, hp, htag, hreceived⟩
        · rw [if_pos htag] at hreceived
          exact .inr ⟨_, [], _, _, .foreign taken hp htag, .inr rfl, by rwa [List.append_nil],
            hreceived⟩
    · exact .inr ⟨_, recovery, _, c', .transfer taken [] error, hrecovery, ht.append hu,
        hsent.trans (bind_of_error hr)⟩
  · exact .inr ⟨_, recovery, _, c', .request error, hrecovery, ht,
      hdrawn.trans (bind_of_error hs)⟩

/-- An envelope answers the request, and the payload comes whole, or the request is refused. -/
theorem readingEnvelope_readEnvelope (dev : Device σ) (c : Connection σ) :
    ReadingEnvelope dev c (readEnvelope dev c) := by
  rcases requestData_cases dev c with
    ⟨taken, transfer, e, t, ht, hp, htag, hfirst⟩ |
      ⟨events, recovery, failure, c', hr, hrecovery, ht, hfirst⟩
  · have hread : readEnvelope dev c = _ := bind_of_ok hfirst
    have hon := readingOn_readAll dev c.link.tags.next.current e.size.toNat
      (transfer.drop headerSize) ⟨{ c.link with tags := c.link.tags.next }, t⟩
    generalize hall : readAll dev c.link.tags.next.current e.size.toNat
      (transfer.drop headerSize) ⟨{ c.link with tags := c.link.tags.next }, t⟩ = outcome at hon
    cases hon with
    | @complete more u hne hlt hle hmore =>
      rw [hread.trans (bind_of_ok hall)]
      have ha := Delivery.answers_take taken hp hne hlt hle
      rw [htag] at ha
      refine .accepted ha ?_
      have htrace := ht.append hmore
      rw [Delivery.transfers, List.take_append_drop]
      exact htrace
    | @failed more error recovery c' hrecovery hmore =>
      rw [hread.trans (bind_of_error hall)]
      refine .refused (.transfer taken (transfer :: more) error) hrecovery ?_
      rw [List.append_assoc]
      exact ht.append hmore
    | @endedEarly more u hlt hmore =>
      rw [hread.trans (bind_of_error hall)]
      refine .refused (.endedEarly taken more hp htag hlt) (.inr rfl) ?_
      rw [List.append_nil]
      exact ht.append hmore
  · have hread : readEnvelope dev c = _ := bind_of_error hfirst
    rw [hread]
    exact .refused hr hrecovery ht

/-! ## A message -/

/-- The tag that was given out last has no part in how a request is refused. -/
theorem Refused.of_tags {link : Link} {tags : TagCounter} {tag : UInt8} {events : List Event}
    {failure : Failure} (h : Refused { link with tags } tag events failure) :
    Refused link tag events failure := by
  cases h with
  | request error => exact .request error
  | transfer taken transfers error => exact .transfer taken transfers error
  | badEnvelope taken h => exact .badEnvelope taken h
  | foreign taken h htag => exact .foreign taken h htag
  | endedEarly taken more h htag hlt => exact .endedEarly taken more h htag hlt

/-- One envelope more before the rest of a message. -/
theorem Reading.cons {d : Delivery} {c : Connection σ} {t : σ}
    {answer : Except Failure (List UInt8)} {c' : Connection σ}
    (hd : d.Answers c.link.tags.next.current false)
    (ht : dev.Trace c.device
      (requested c.link c.link.tags.next.current d.taken :: d.transfers.map (received c.link)) t)
    (h : Reading dev ⟨{ c.link with tags := c.link.tags.next }, t⟩ (answer, c')) :
    Reading dev c (answer.map (d.payload ++ ·), c') := by
  generalize houtcome : (answer, c') = outcome at h
  cases h with
  | @accepted ds u hne ha hu =>
    cases houtcome
    rw [exchange_tags] at hu
    have hempty : ds.isEmpty = false := by simpa using hne
    have hcons : Reading dev c (.ok ((d :: ds).flatMap (·.payload)), _) :=
      .accepted (List.cons_ne_nil d ds) ⟨by rwa [hempty], ha⟩ (ht.append hu)
    exact hcons
  | @refused ds events recovery failure c' ha hr hrecovery hu =>
    cases houtcome
    rw [exchange_tags] at hu
    have hcontinued : Continued c.link.tags (d :: ds) := ⟨hd, ha⟩
    refine .refused hcontinued hr.of_tags hrecovery ?_
    rw [exchange, List.append_assoc]
    exact ht.append hu

/-- The end of a reading that comes to one. -/
theorem reading_of_readEnvelopes? {message : List UInt8} {c : Connection σ}
    {outcome : Except Failure (List UInt8) × Connection σ}
    (h : c.readEnvelopes? dev message = some outcome) :
    ∃ answer, outcome.1 = answer.map (message ++ ·) ∧ Reading dev c (answer, outcome.2) := by
  refine Connection.readEnvelopes?.partial_correctness dev (fun message c outcome =>
    ∃ answer, outcome.1 = answer.map (message ++ ·) ∧ Reading dev c (answer, outcome.2)) ?_
    message c outcome h
  intro rest ih message c outcome h
  have hread := readingEnvelope_readEnvelope dev c
  generalize readEnvelope dev c = envelope at h hread
  cases hread with
  | @refused events recovery failure c' hr hrecovery ht =>
    obtain rfl := Option.some.inj h
    have hnone : Continued c.link.tags [] := trivial
    exact ⟨.error failure, rfl, .refused hnone hr hrecovery ht⟩
  | @accepted d isLast t ha ht =>
    cases isLast with
    | true =>
      obtain rfl := Option.some.inj h
      have hone : Reading dev c (.ok ([d].flatMap (·.payload)), _) :=
        .accepted (List.cons_ne_nil d []) ⟨ha, trivial⟩ (by simpa [exchange] using ht)
      rw [List.flatMap_singleton] at hone
      exact ⟨.ok d.payload, rfl, hone⟩
    | false =>
      obtain ⟨answer, he, hrest⟩ := ih _ _ _ h
      refine ⟨answer.map (d.payload ++ ·), ?_, hrest.cons ha ht⟩
      rw [he]
      cases answer with
      | error failure => rfl
      | ok data => exact congrArg Except.ok (List.append_assoc _ _ _)

/-- A reading that does not come to an end. -/
theorem endless_of_readEnvelopes? {message : List UInt8} {c : Connection σ}
    (h : c.readEnvelopes? dev message = none) : Endless dev c := by
  intro n
  induction n generalizing message c with
  | zero => exact ⟨[], c.device, rfl, trivial, rfl⟩
  | succ n ih =>
    rw [Connection.readEnvelopes?] at h
    have hread := readingEnvelope_readEnvelope dev c
    generalize readEnvelope dev c = envelope at h hread
    cases hread with
    | refused => cases h
    | @accepted d isLast t ha ht =>
      cases isLast with
      | true => cases h
      | false =>
        obtain ⟨ds, u, hlength, hds, hu⟩ := ih h
        rw [exchange_tags] at hu
        exact ⟨d :: ds, u, congrArg (· + 1) hlength, ⟨ha, hds⟩, ht.append hu⟩

/-- Whatever a device sends, a message that is read is the payloads of envelopes that answered the
requests of this reading, in their order and to the last. Otherwise a request was refused, or there is
no end to the envelopes. -/
theorem reading_readMessage (dev : Device σ) {c : Connection σ} (hp : c.link.profile ≠ .ieeeBlock) :
    Reading dev c (readMessage dev c) ∨
      Endless dev c ∧ readMessage dev c = (.error .oversupplied, c) := by
  rw [readMessage, if_neg (mt Profile.readsBlocks_iff.1 hp)]
  cases h : c.readEnvelopes? dev [] with
  | none => exact .inr ⟨endless_of_readEnvelopes? h, rfl⟩
  | some outcome =>
    obtain ⟨answer, he, hreading⟩ := reading_of_readEnvelopes? h
    refine .inl ?_
    have hanswer : answer.map ([] ++ ·) = answer := by cases answer <;> rfl
    rw [hanswer] at he
    rwa [← he] at hreading

end Benchtop.Link
