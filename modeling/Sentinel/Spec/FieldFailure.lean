import Sentinel.ForStd.JsonSize
import Sentinel.Spec.FieldReplay

/-! # Failed Field requests

A request that fails leaves its tables as they were, unless the contract refuses a row that has just
been committed: the request schemas bound some fields otherwise than the contract does. -/

namespace Sentinel.Field

open CanonicalJson (Json)
open EdgeTrustedTime (isUuid isScopedId isHexDigit)
open Events (Timestamp isSafeSubjectToken serializedByteLength)
open FieldOffline (SiteScope)

variable {db db' : Db} {draw : Draw} {worker : Worker} {phase : Phase} {principal : Principal}

/-! ## Ids and instants -/

variable {text siteId incidentId : String} {input : SendMessageInput}

/-- ASCII takes one UTF-16 unit a character. -/
theorem length_codeUnits {text : List Char} (h : ∀ c ∈ text, c.toNat < 128) :
    (text.flatMap JsText.codeUnits).length = text.length := by
  induction text with
  | nil => rfl
  | cons c text ih =>
    have hc := h c List.mem_cons_self
    rw [List.flatMap_cons, List.length_append, ih fun d hd => h d (List.mem_cons_of_mem _ hd),
      JsText.codeUnits, if_pos (by omega), List.length_singleton, List.length_cons, Nat.add_comm]

theorem isScopedId_of_ascii (h : ∀ c ∈ text.toList, c.toNat < 128)
    (hlength : 1 ≤ text.toList.length ∧ text.toList.length ≤ 256) : isScopedId text = true := by
  rw [isScopedId, length_codeUnits h]
  exact decide_eq_true hlength

/-- The groups of a uuid, joined again. -/
theorem uuid_text (h : isUuid text = true) :
    text.toList.length = 36 ∧ ∀ c ∈ text.toList, c = '-' ∨ isHexDigit c = true := by
  have hsplit : text.toList.splitOnP (fun c => decide (c = '-')) = text.toList.splitOn '-' :=
    congrArg (List.splitOnP · text.toList) (funext fun c => (beq_eq_decide c '-').symm)
  obtain ⟨hlengths, hdigits⟩ := of_decide_eq_true h
  rw [hsplit] at hlengths hdigits
  have hjoined : ['-'].intercalate (text.toList.splitOn '-') = text.toList :=
    List.intercalate_splitOn _
  generalize text.toList.splitOn '-' = groups at hlengths hdigits hjoined
  obtain ⟨a, b, c, d, e, rfl, ha, hb, hc, hd, he⟩ : ∃ a b c d e, groups = [a, b, c, d, e] ∧
      a.length = 8 ∧ b.length = 4 ∧ c.length = 4 ∧ d.length = 4 ∧ e.length = 12 := by
    simp only [List.map_eq_cons_iff, List.map_eq_nil_iff] at hlengths
    grind
  constructor
  · rw [← hjoined]
    simp [ha, hb, hc, hd, he]
  · intro char hchar
    rw [← hjoined] at hchar
    simp at hchar
    simp at hdigits
    grind

theorem printsItself_of_isHexDigit {c : Char} (h : isHexDigit c = true) :
    JsonText.printsItself c = true := by
  have hrange : 48 ≤ c.toNat ∧ c.toNat ≤ 57 ∨ 97 ≤ c.toNat ∧ c.toNat ≤ 102 ∨
      65 ≤ c.toNat ∧ c.toNat ≤ 70 := by
    have hdigit := of_decide_eq_true h
    simpa [Char.isDigit, Char.le_def, UInt32.le_iff_toNat_le] using hdigit
  exact JsonText.printsItself_of_toNat (by omega) (by omega) (by omega)

theorem printsItself_of_isDigit {c : Char} (h : c.isDigit = true) :
    JsonText.printsItself c = true :=
  printsItself_of_isHexDigit (decide_eq_true (.inl h))

theorem uuid_printsItself (h : isUuid text = true) :
    text.toList.all JsonText.printsItself = true := by
  refine List.all_eq_true.mpr fun c hc => ?_
  cases (uuid_text h).2 c hc with
  | inl hdash => exact hdash ▸ rfl
  | inr hhex => exact printsItself_of_isHexDigit hhex

theorem toISOString_printsItself (at' : Timestamp) :
    (JsText.toISOString at'.ms).toList.all JsonText.printsItself = true := by
  have hmarks : ['-', 'T', ':', '.', 'Z'].all JsonText.printsItself = true := by decide
  refine List.all_eq_true.mpr fun c hc => ?_
  cases JsDate.mem_toISOString at'.bounds hc with
  | inl hdigit => exact printsItself_of_isDigit hdigit
  | inr hmark => exact List.all_eq_true.mp hmarks c hmark

theorem isScopedId_of_isUuid (h : isUuid text = true) : isScopedId text = true := by
  have hlength := (uuid_text h).1
  refine isScopedId_of_ascii (fun c hc => ?_) (by omega)
  exact JsonText.toNat_of_printsItself (List.all_eq_true.mp (uuid_printsItself h) c hc)

theorem isScopedId_of_isSafeSubjectToken (h : isSafeSubjectToken text = true) :
    isScopedId text = true := by
  obtain ⟨hlow, hhigh, hsafe⟩ := of_decide_eq_true h
  refine isScopedId_of_ascii (fun c hc => ?_) ⟨hlow, hhigh⟩
  have hmarks : ['_', ':', '-'].all (·.toNat < 128) = true := by decide
  have hchar := List.all_eq_true.mp hsafe c hc
  rw [Bool.or_eq_true, List.contains_iff_mem] at hchar
  cases hchar with
  | inl halphanum =>
    have hrange : (65 ≤ c.toNat ∧ c.toNat ≤ 90 ∨ 97 ≤ c.toNat ∧ c.toNat ≤ 122) ∨
        48 ≤ c.toNat ∧ c.toNat ≤ 57 := by
      have hcases : (decide (c.val ≥ 65 ∧ c.val ≤ 90) || (c.val ≥ 97 && c.val ≤ 122) ||
          (c.val ≥ 48 && c.val ≤ 57)) = true := halphanum
      simpa [UInt32.le_iff_toNat_le] using hcases
    omega
  | inr hmark => exact of_decide_eq_true (List.all_eq_true.mp hmarks c hmark)

/-! ## What the contract accepts -/

/-- What the contract asks of a fresh assignment and the request does not: that the ids of users and
    of the organisation are not too long, that the summary is not in its bytes, and that it does not
    expire before it is stored. -/
structure Storable (principal : Principal) (input : CreateAssignmentInput) (draw : Draw) : Prop where
  organisationId : isScopedId principal.organisationId = true
  userId : isScopedId principal.userId = true
  assigneeUserId : isScopedId input.assigneeUserId = true
  summary : input.needToKnowSummary.utf8ByteSize ≤ maxSummaryBytes
  expiresAt : ∀ expiry ∈ input.expiresAt, draw.storedAt.ms ≤ expiry.ms

theorem ne_empty_of_isBounded {max : Nat} (h : isBounded max text = true) : text ≠ "" := by
  rintro rfl
  simp [isBounded] at h

theorem assignmentRow_meetsContract {input : CreateAssignmentInput} :
    (assignmentRow principal input draw).meetsContract = true ↔ Storable principal input draw := by
  have hid := isScopedId_of_isUuid draw.rowId.isUuid_text
  have hsite := isScopedId_of_isSafeSubjectToken input.siteId_safe
  have hsummary := ne_empty_of_isBounded input.needToKnowSummary_bounded
  have hincident : input.incidentId.all isScopedId = true := by
    refine (Option.all_eq_true _ _).mpr fun id hmem => isScopedId_of_isUuid ?_
    exact (Option.all_eq_true _ _).mp input.incidentId_uuid id hmem
  have hexpiry : (input.expiresAt.map (·.date)).all (draw.storedAt.ms ≤ ·.ms) = true ↔
      ∀ expiry ∈ input.expiresAt, draw.storedAt.ms ≤ expiry.ms := by
    rw [Option.all_map, Option.all_eq_true]
    exact forall₂_congr fun expiry _ => decide_eq_true_iff
  simp only [FieldAssignment.meetsContract, assignmentRow, hid, hsite, hincident,
    input.assignmentType_bounded, Bool.and_eq_true, Bool.or_eq_true, decide_eq_true_eq, hsummary,
    ne_eq, not_false_eq_true, Option.all_none, le_refl, and_true, true_and, reduceCtorEq,
    List.mem_cons, List.not_mem_nil, or_self, true_or]
  constructor
  · rintro ⟨⟨⟨⟨⟨horganisation, hassignee⟩, hbytes⟩, huser⟩, -⟩, hexpires⟩
    exact ⟨horganisation, huser, hassignee, of_decide_eq_true hbytes, hexpiry.mp hexpires⟩
  · intro h
    exact ⟨⟨⟨⟨⟨h.organisationId, h.assigneeUserId⟩, decide_eq_true h.summary⟩, h.userId⟩, h.userId⟩,
      hexpiry.mpr h.expiresAt⟩

/-- The id and the instant of a message take the same room whatever they are. -/
theorem byteLength_messageJson (principal : Principal) (siteId incidentId : String)
    (input : SendMessageInput) {id id' : String} (hid : isUuid id = true) (hid' : isUuid id' = true) (sentAt sentAt' : Timestamp) :
    serializedByteLength (messageJson (messageRow principal siteId incidentId input id sentAt)
        input.recipientUserIds) =
      serializedByteLength (messageJson (messageRow principal siteId incidentId input id' sentAt')
        input.recipientUserIds) := by
  have hids : JsonText.byteLength (JsonText.printString (.plain Char) id.toList) =
      JsonText.byteLength (JsonText.printString (.plain Char) id'.toList) := by
    rw [JsonText.byteLength_printString (uuid_printsItself hid),
      JsonText.byteLength_printString (uuid_printsItself hid'), (uuid_text hid).1, (uuid_text hid').1]
  have hinstants : JsonText.byteLength
        (JsonText.printString (.plain Char) (JsText.toISOString sentAt.ms).toList) =
      JsonText.byteLength
        (JsonText.printString (.plain Char) (JsText.toISOString sentAt'.ms).toList) := by
    rw [JsonText.byteLength_printString (toISOString_printsItself sentAt),
      JsonText.byteLength_printString (toISOString_printsItself sentAt'),
      JsDate.length_toISOString sentAt.bounds, JsDate.length_toISOString sentAt'.bounds]
  refine congrArg some (JsonText.byteLength_print_object ?_)
  simp only [messageRow, List.map_cons, JsonText.print, hids, hinstants]

/-- Where the contract accepts the candidate of a message, it accepts the message that is stored
    unless that expires before it is sent. -/
theorem messageRow_meetsContract {now : Timestamp}
    (h : (messageRow principal siteId incidentId input aggregateSizeProbeId now).meetsContract
      input.recipientUserIds = true) :
    (messageRow principal siteId incidentId input draw.rowId.text draw.storedAt).meetsContract
        input.recipientUserIds = true ↔
      ∀ expiry ∈ input.expiresAt, draw.storedAt.ms ≤ expiry.ms := by
  have hprobe : isUuid aggregateSizeProbeId = true := by decide
  have hid := isScopedId_of_isUuid draw.rowId.isUuid_text
  have hsize := byteLength_messageJson principal siteId incidentId input hprobe
    draw.rowId.isUuid_text now draw.storedAt
  have hexpiry : (input.expiresAt.map (·.date)).all (draw.storedAt.ms ≤ ·.ms) = true ↔
      ∀ expiry ∈ input.expiresAt, draw.storedAt.ms ≤ expiry.ms := by
    rw [Option.all_map, Option.all_eq_true]
    exact forall₂_congr fun expiry _ => decide_eq_true_iff
  rw [← hexpiry]
  simp only [FieldMessage.meetsContract, FieldMessage.oversized, hsize] at h ⊢
  simp only [messageRow, isScopedId_of_isUuid hprobe, hid, Bool.and_eq_true, true_and] at h ⊢
  obtain ⟨⟨hrest, -⟩, hfits⟩ := h
  exact ⟨fun hstored => hstored.1.2, fun hexpires => ⟨⟨hrest, hexpires⟩, hfits⟩⟩

/-! ## The step that commits -/

/-- What a call is about to commit is as the contract asks. -/
def Worker.KeepsContract (db : Db) (draw : Draw) (worker : Worker) : Prop :=
  match worker.call, worker.phase with
  | .createAssignment principal _ input, .incidentFound =>
    ∀ committed, db.createAssignment principal input draw = .ok committed →
      Storable principal input draw
  | .send principal _ incidentId input, .sendable siteId =>
    ∀ committed, db.send principal siteId incidentId input draw = .ok committed →
      ∀ expiry ∈ input.expiresAt, draw.storedAt.ms ≤ expiry.ms
  | _, _ => True

/-- A candidate of the message that a call is about to send has passed the contract. -/
def Worker.Checked (worker : Worker) : Prop :=
  match worker.call, worker.phase with
  | .send principal _ incidentId input, .sendable siteId =>
    ∃ now, (messageRow principal siteId incidentId input aggregateSizeProbeId now).meetsContract
      input.recipientUserIds = true
  | _, _ => True

theorem meetsContract_of_sendRefusal
    {now : Timestamp} (h : db.sendRefusal principal siteId incidentId input now = none) :
    (messageRow principal siteId incidentId input aggregateSizeProbeId now).meetsContract
      input.recipientUserIds = true := by
  simp only [Db.sendRefusal] at h
  split at h
  · cases h
  · split at h
    · cases h
    · split at h
      · cases h
      · split at h
        · assumption
        · split at h <;> cases h

theorem advance_checked {receipt : Bool} (h : worker.advance db draw receipt = some (db', phase)) :
    Worker.Checked ⟨worker.call, phase⟩ := by
  obtain ⟨call, standing⟩ := worker
  cases call with
  | send principal siteScope incidentId input =>
    cases phase with
    | sendable siteId =>
      cases standing with
      | siteScoped siteId' =>
        simp only [Worker.advance, advanceSend] at h
        split at h
        · cases h
        · rename_i hnone
          cases h
          exact ⟨draw.now, meetsContract_of_sendRefusal hnone⟩
      | started =>
        simp only [Worker.advance, advanceSend] at h
        split at h
        · cases h
        · split at h <;> cases h
      | incidentScoped siteId' =>
        simp only [Worker.advance, advanceSend] at h
        split at h
        · cases h
        · split at h <;> cases h
      | sendable siteId' =>
        simp only [Worker.advance, advanceSend, answerMessage] at h
        split at h
        · split at h <;> cases h
        · cases h
        · cases h
      | sendTaken =>
        simp only [Worker.advance, advanceSend, answerMessage] at h
        split at h
        · cases h
        · split at h <;> cases h
      | _ => cases h
    | _ => trivial
  | _ => trivial

/-- Whether the contract accepts the message that has been sent. -/
theorem sent_meetsContract {row : MessageWithRecipients} (hkeyed : db.Keyed)
    (hchecked : ∃ now, (messageRow principal siteId incidentId input aggregateSizeProbeId
      now).meetsContract input.recipientUserIds = true)
    (h : db.send principal siteId incidentId input draw = .ok (row, db')) :
    row.meetsContract = true ↔ ∀ expiry ∈ input.expiresAt, draw.storedAt.ms ≤ expiry.ms := by
  obtain ⟨now, hcandidate⟩ := hchecked
  obtain ⟨rfl, hnew, -, hrecipients, -⟩ := send_eq_ok h
  have hsent := sent_recipients hkeyed (fun other hother => (hnew other hother).1) (fun _ => rfl)
    hrecipients
  rw [← messageRow_meetsContract hcandidate, MessageWithRecipients.meetsContract, hsent, List.map_map]
  exact iff_of_eq (congrArg (fun users => FieldMessage.meetsContract _ users = true) (List.map_id _))

/-- A call that fails in a step leaves the tables as they were, exactly where it does not commit what
    the contract refuses. -/
theorem advance_failed_iff {receipt : Bool} (hkeyed : db.Keyed) (hchecked : worker.Checked)
    (h : worker.advance db draw receipt = some (db', phase)) :
    ((∃ exception, phase = .thrown exception) → db' = db) ↔ worker.KeepsContract db draw := by
  obtain ⟨call, standing⟩ := worker
  constructor
  · intro hsame
    unfold Worker.KeepsContract
    split
    · rename_i principal siteScope input hcall hstanding
      obtain rfl : call = _ := hcall
      obtain rfl : standing = _ := hstanding
      rintro ⟨row, after⟩ hcommit
      obtain ⟨hrow, -, hassignments, -⟩ := createAssignment_eq_ok hcommit
      by_contra hnot
      have hrefused : row.meetsContract = false :=
        Bool.eq_false_iff.mpr fun haccepted => hnot (assignmentRow_meetsContract.mp (hrow ▸ haccepted))
      simp only [Worker.advance, advanceCreate, hcommit, answerAssignment, hrefused,
        Bool.false_eq_true, if_false, Option.some.injEq, Prod.mk.injEq] at h
      obtain ⟨rfl, hphase⟩ := h
      rw [hsame ⟨_, hphase.symm⟩, List.self_eq_append_right] at hassignments
      exact absurd hassignments (List.cons_ne_nil _ _)
    · rename_i principal siteScope incidentId input siteId hcall hstanding
      obtain rfl : call = _ := hcall
      obtain rfl : standing = _ := hstanding
      rintro ⟨row, after⟩ hcommit
      obtain ⟨-, -, hmessages, -⟩ := send_eq_ok hcommit
      by_contra hnot
      simp only [Worker.advance, advanceSend, hcommit, answerMessage,
        sent_meetsContract hkeyed hchecked hcommit, if_neg hnot, Option.some.injEq,
        Prod.mk.injEq] at h
      obtain ⟨rfl, hphase⟩ := h
      rw [hsame ⟨_, hphase.symm⟩, List.self_eq_append_right] at hmessages
      exact absurd hmessages (List.cons_ne_nil _ _)
    · trivial
  · rintro hkeeps ⟨exception, hthrown⟩
    have hwrites := advance_writes h
    cases hwrites with
    | nothing => rfl
    | created commit =>
      obtain ⟨rfl, -⟩ := createAssignment_eq_ok commit
      rw [answerAssignment, if_pos (assignmentRow_meetsContract.mpr (hkeeps _ commit))] at hthrown
      cases hthrown
    | transitioned commit =>
      obtain ⟨⟨-, row, rfl⟩, -⟩ | hsame := transitionAssignment_eq_some commit
      · cases hthrown
      · exact hsame
    | recorded => cases hthrown
    | sent commit =>
      rw [answerMessage, if_pos ((sent_meetsContract hkeyed hchecked commit).mpr (hkeeps _ commit))]
        at hthrown
      cases hthrown
    | acknowledged commit =>
      obtain hsame | ⟨_, _, -, -, -, -, -, -, -, -, -, -, -, rfl⟩ := acknowledge_eq_ok commit
      · exact hsame
      · cases hthrown
    | delivered => cases hthrown

/-! ## Runs -/

/-- The tables have their keys, and what is about to be sent has been checked. -/
structure Ready (s : State) : Prop where
  keyed : s.db.Keyed
  checked : ∀ worker ∈ s.workers, worker.Checked

theorem Worker.checked_of_closed (h : worker.phase.isOpen = false) : worker.Checked := by
  unfold Worker.Checked
  split
  · rename_i hphase
    rw [hphase] at h
    exact Bool.noConfusion h
  · trivial

theorem step_ready {s t : State} {label : Label} (h : Ready s) (hstep : step s label = some t) :
    Ready t := by
  refine ⟨(step_grows h.keyed hstep).2, fun worker hworker => ?_⟩
  obtain ⟨call, -, rfl⟩ | ⟨i, draw, receipt, other, db, phase, -, -, -, hadvance, rfl⟩ |
    ⟨i, other, -, -, -, rfl⟩ | ⟨directory, -, rfl⟩ := step_cases hstep
  · rcases List.of_mem_concat hworker with hold | rfl
    · exact h.checked worker hold
    · cases call <;> trivial
  · cases List.mem_or_eq_of_mem_set hworker with
    | inl hold => exact h.checked worker hold
    | inr hnext => exact hnext ▸ advance_checked hadvance
  · cases List.mem_or_eq_of_mem_set hworker with
    | inl hold => exact h.checked worker hold
    | inr hnext => exact hnext ▸ Worker.checked_of_closed rfl
  · exact h.checked worker hworker

theorem run_ready {directory : Directory} {labels : List Label} {s : State}
    (hrun : Transition.run step (State.initial directory) labels = some s) : Ready s :=
  Transition.run_invariant step_ready
    ⟨initial_keyed directory, fun _ hworker => absurd hworker List.not_mem_nil⟩ hrun

/-- Whichever call takes the step commits only what the contract accepts. -/
def KeepsContract (s : State) : Label → Prop
  | .advance i draw _ => ∀ worker, s.workers[i]? = some worker → s.blocks worker = false →
      worker.KeepsContract s.db draw
  | _ => True

def State.HasFailed (s : State) (i : Nat) : Prop :=
  ∃ worker exception, s.workers[i]? = some worker ∧ worker.phase = .thrown exception

/-- No step of a call that has failed by the end of the run has changed the tables, exactly where no
    call of the run commits what the contract refuses. -/
theorem failed_write_iff {directory : Directory} {labels : List Label} {s : State}
    (hrun : Transition.run step (State.initial directory) labels = some s) :
    (∀ earlier i draw receipt later t u, labels = earlier ++ .advance i draw receipt :: later →
        Transition.run step (State.initial directory) earlier = some t →
        step t (.advance i draw receipt) = some u → s.HasFailed i → u.db = t.db) ↔
      Transition.RunAll step KeepsContract (State.initial directory) labels := by
  constructor
  · intro hnothing
    refine Transition.runAll_of_prefixes fun earlier label later t hlabels hearlier => ?_
    rw [hlabels] at hrun
    obtain ⟨u, hu, hlater⟩ := step_of_run hrun hearlier
    cases label with
    | advance i draw receipt =>
      intro worker hi _
      obtain ⟨other, db, phase, hj, -, hadvance, rfl⟩ := advance_eq_some hu
      obtain rfl := Option.some.inj (hj.symm.trans hi)
      have hready := run_ready hearlier
      have hchecked := hready.checked other (List.mem_of_getElem? hi)
      refine (advance_failed_iff hready.keyed hchecked hadvance).mp ?_
      rintro ⟨exception, rfl⟩
      have hnext := List.getElem?_set_self (a := ⟨other.call, .thrown exception⟩)
        (List.getElem?_eq_some_iff.mp hi).1
      exact hnothing earlier i draw receipt later t _ hlabels hearlier hu
        ⟨_, exception, run_of_closed hnext rfl hlater, rfl⟩
    | _ => trivial
  · rintro hall earlier i draw receipt later t u rfl hearlier hu ⟨final, exception, hfinal, hthrown⟩
    obtain ⟨worker, db, phase, hi, hblocks, hadvance, rfl⟩ := advance_eq_some hu
    obtain ⟨v, hv, hlater⟩ := step_of_run hrun hearlier
    obtain rfl := Option.some.inj (hv.symm.trans hu)
    have hready := run_ready hearlier
    have hchecked := hready.checked worker (List.mem_of_getElem? hi)
    obtain hsame | hclosed := (advance_writes hadvance).closes
    · exact hsame
    · -- the call has ended with this step, so it has failed in this step
      have hnext := List.getElem?_set_self (a := ⟨worker.call, phase⟩)
        (List.getElem?_eq_some_iff.mp hi).1
      have hended := run_of_closed hnext hclosed hlater
      obtain rfl := Option.some.inj (hended.symm.trans hfinal)
      exact (advance_failed_iff hready.keyed hchecked hadvance).mpr
        ((hall.append_right hearlier).1 worker hi hblocks) ⟨exception, hthrown⟩

/-! ## An order that has expired -/

/-- An order of the commander for one site, after an attempt without the scope for it. -/
def orderOnce (input : CreateAssignmentInput) : List Label :=
  [.call (.createAssignment commander ⟨false, []⟩ input),
    .advance 0 (drawAt 1000 false) false,
    .call (.createAssignment commander anySite input),
    .advance 1 (drawAt 1000 false) false, .advance 1 (drawAt 1000 false) false,
    .advance 1 (drawAt 1000 false) false, .advance 1 (drawAt 1000 false) false]

/-- No message is sent, and the contract accepts an assignment that may be stored. -/
def storesWhatItMay (s : State) : Label → Bool
  | .advance i draw _ =>
    (s.workers[i]?).all fun worker =>
      match worker.call, worker.phase with
      | .createAssignment principal _ input, .incidentFound =>
        (assignmentRow principal input draw).meetsContract
      | .send .., .sendable _ => false
      | _, _ => true
  | _ => true

theorem keepsContract_of_storesWhatItMay (s : State) (label : Label)
    (h : storesWhatItMay s label = true) : KeepsContract s label := by
  cases label with
  | advance i draw receipt =>
    intro worker hi _
    have hworker := (Option.all_eq_true _ _).mp h worker hi
    unfold Worker.KeepsContract
    split
    · rename_i hcall hphase
      rw [hcall, hphase] at hworker
      exact fun _ _ => assignmentRow_meetsContract.mp hworker
    · rename_i hcall hphase
      rw [hcall, hphase] at hworker
      cases hworker
    · trivial
  | _ => trivial

/-- The call without the scope has failed, and has left nothing behind. -/
theorem failed_write_forbidden :
    ∃ s, Transition.run step (State.initial oneSite)
        (orderOnce (patrolOrder "operative-1" (by decide))) = some s ∧
      ∀ earlier i draw receipt later t u,
        orderOnce (patrolOrder "operative-1" (by decide)) =
          earlier ++ .advance i draw receipt :: later →
        Transition.run step (State.initial oneSite) earlier = some t →
        step t (.advance i draw receipt) = some u → s.HasFailed i → u.db = t.db := by
  have hends : (Transition.run step (State.initial oneSite)
      (orderOnce (patrolOrder "operative-1" (by decide)))).isSome = true := by decide
  obtain ⟨s, hrun⟩ := Option.isSome_iff_exists.mp hends
  refine ⟨s, hrun, (failed_write_iff hrun).mpr ?_⟩
  exact Transition.runAll_of_checked keepsContract_of_storesWhatItMay (by decide)

def expiredOrder : CreateAssignmentInput :=
  { patrolOrder "operative-1" operative_ne with
    expiresAt := some ⟨"1970-01-01T00:00:00.000Z", 0, epoch_reads⟩ }

/-- The last step of the call makes it fail, and stores its assignment, audit row and outbox row. -/
theorem failed_write_expired :
    ∃ t s, Transition.run step (State.initial oneSite) (orderOnce expiredOrder).dropLast = some t ∧
      step t (.advance 1 (drawAt 1000 false) false) = some s ∧ s.HasFailed 1 ∧ s.db ≠ t.db ∧
      s.db.assignments.length = 1 ∧ s.db.audit.length = 1 ∧ s.db.outbox.length = 1 := by
  have hends : (Transition.run step (State.initial oneSite) (orderOnce expiredOrder).dropLast).any
      (fun t => t.db.assignments.isEmpty &&
        (step t (.advance 1 (drawAt 1000 false) false)).any fun s =>
          (s.workers[1]?).any (fun worker =>
            match worker.phase with
            | .thrown _ => true
            | _ => false) &&
          (s.db.assignments.length, s.db.audit.length, s.db.outbox.length) = (1, 1, 1)) = true := by
    decide
  obtain ⟨t, hearlier, hend⟩ := (Option.any_eq_true _ _).mp hends
  obtain ⟨hempty, hstep⟩ := Bool.and_eq_true_iff.mp hend
  obtain ⟨s, hs, hlast⟩ := (Option.any_eq_true _ _).mp hstep
  obtain ⟨hfailed, hlengths⟩ := Bool.and_eq_true_iff.mp hlast
  obtain ⟨hassignments, hrest⟩ := Prod.mk.inj (of_decide_eq_true hlengths)
  obtain ⟨haudit, houtbox⟩ := Prod.mk.inj hrest
  refine ⟨t, s, hearlier, hs, ?_, ?_, hassignments, haudit, houtbox⟩
  · obtain ⟨worker, hworker, hthrown⟩ := (Option.any_eq_true _ _).mp hfailed
    split at hthrown
    · exact ⟨worker, _, hworker, ‹_›⟩
    · cases hthrown
  · intro hsame
    rw [hsame, List.isEmpty_iff.mp hempty] at hassignments
    cases hassignments

end Sentinel.Field
