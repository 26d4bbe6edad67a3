import Sentinel.Native.FusionConsumer
import Sentinel.Spec.FusionRefinement

/-! # Candidates that are counted and never published

The latch and the emission count commit before the candidate is published, the publisher reports a
failure as a value nobody reads, and a redelivery publishes nothing. -/

namespace Sentinel.Fusion

/-! ## One step of a worker -/

def Worker.counted : Worker → Option IncidentCandidateMessage
  | .publishingUpdate _ _ candidate => candidate
  | .publishingCandidate _ _ candidate => some candidate
  | .finished _ (.applied _ candidate) => candidate
  | _ => none

/-- What a step of a worker does to its candidate. -/
inductive Worker.Moves (db : Db) (env : Env) (worker worker' : Worker)
    (messages : List (Message × Bool)) : Prop
  /-- Nothing has been counted. -/
  | quiet (hbefore : worker.counted = none) (hafter : worker'.counted = none)
      (hmessages : messages = [])
  | commits (hbefore : worker.counted = none) (hnew : ¬ db.Recorded worker.event.key)
      (hpending : worker'.pending = worker'.counted.toList) (hmessages : messages = [])
  /-- The update is handed over, the candidate is not. -/
  | keeps (hcounted : worker'.counted = worker.counted)
      (hbefore : worker.pending = worker.counted.toList)
      (hafter : worker'.pending = worker'.counted.toList)
      (hmessages : messages.flatMap Message.candidates = [])
  /-- The candidate is handed over. -/
  | publishes (candidate : IncidentCandidateMessage) (m : MappedEvent)
      (update : HypothesisUpdateMessage) (hworker : worker = .publishingCandidate m update candidate)
      (hafter : worker'.counted = some candidate) (hpending : worker'.pending = [])
      (hmessages : messages = [(.candidate candidate, env.accepted)])

variable {db : Db} {env : Env} {worker worker' : Worker} {messages : List (Message × Bool)}
  {candidate : IncidentCandidateMessage}

theorem Worker.moves_of_advance {db' : Db}
    (h : worker.advance db env = some (db', worker', messages)) :
    worker'.event = worker.event ∧ worker.Moves db env worker' messages := by
  cases worker with
  | received event =>
    rw [Worker.advance] at h
    split at h
    next reason hmapped =>
      cases h
      refine ⟨rfl, .quiet rfl ?_ rfl⟩
      split <;> rfl
    next m hmapped =>
      have hm := NormalisedEvent.event_of_mapped hmapped
      split at h
      · cases h
        exact ⟨rfl, .quiet rfl rfl rfl⟩
      · cases h
        exact ⟨hm, .quiet rfl rfl rfl⟩
  | loading attempt m =>
    rw [Worker.advance] at h
    split at h <;> cases h <;> exact ⟨rfl, .quiet rfl rfl rfl⟩
  | creating attempt m =>
    rw [Worker.advance] at h
    split at h <;> cases h <;> exact ⟨rfl, .quiet rfl rfl rfl⟩
  | rereading attempt m =>
    rw [Worker.advance] at h
    split at h <;> cases h <;> exact ⟨rfl, .quiet rfl rfl rfl⟩
  | applying attempt m row =>
    rw [Worker.advance] at h
    split at h
    · cases h
      exact ⟨rfl, .quiet rfl rfl rfl⟩
    · cases h
      refine ⟨nextAttempt_event attempt m, .quiet rfl ?_ rfl⟩
      unfold nextAttempt
      split <;> rfl
    · cases h
      exact ⟨rfl, .quiet rfl rfl rfl⟩
    next outcome db' happly =>
      cases h
      have hnew : ¬ db.Recorded m.event.key := by
        rintro ⟨a, ha, hkey⟩
        have htaken : (db.appliedEvents.any fun entry =>
            entry.key = (applyParams row m).appliedEvent.key) = true :=
          List.any_eq_true.mpr ⟨a, ha, decide_eq_true hkey⟩
        rw [Db.applyEvent, if_pos htaken] at happly
        cases happly
      exact ⟨rfl, .commits rfl hnew rfl rfl⟩
  | publishingUpdate m update candidate =>
    cases candidate with
    | none =>
      cases h
      exact ⟨rfl, .keeps rfl rfl rfl rfl⟩
    | some candidate =>
      cases h
      exact ⟨rfl, .keeps rfl rfl rfl rfl⟩
  | publishingCandidate m update candidate =>
    cases h
    exact ⟨rfl, .publishes candidate m update rfl rfl rfl rfl⟩
  | finished event result => cases h
  | failed event => cases h

theorem Worker.pending_subset
    (h : candidate ∈ worker.pending) : worker.counted = some candidate := by
  cases worker with
  | publishingUpdate m update candidate' => exact Option.mem_toList.mp h
  | publishingCandidate m update candidate' => exact congrArg some (List.mem_singleton.mp h).symm
  | _ => cases h

theorem Worker.Moves.counted (h : worker.Moves db env worker' messages)
    (hcounted : worker.counted = some candidate) :
    worker'.counted = some candidate := by
  cases h with
  | quiet hbefore => cases hbefore.symm.trans hcounted
  | commits hbefore => cases hbefore.symm.trans hcounted
  | keeps hsame => exact hsame.trans hcounted
  | publishes candidate' m update hworker hafter =>
    subst hworker
    exact hafter.trans hcounted

theorem Worker.Moves.handed (h : worker.Moves db env worker' messages)
    (hmem : candidate ∈ messages.flatMap Message.candidates) : worker.counted = some candidate := by
  cases h with
  | quiet _ _ hmessages =>
    rw [hmessages] at hmem
    cases hmem
  | commits _ _ _ hmessages =>
    rw [hmessages] at hmem
    cases hmem
  | keeps _ _ _ hmessages =>
    rw [hmessages] at hmem
    cases hmem
  | publishes candidate' m update hworker hafter hpending hmessages =>
    rw [hmessages] at hmem
    obtain rfl := List.mem_singleton.mp hmem
    rw [hworker]
    rfl

/-! ## Runs of the consumer -/

namespace Consumer

def State.Acknowledged (s : State) (key : String × String) : Prop :=
  ∃ message ∈ s.stream, message.acked = true ∧
    ∃ event, message.payload = some event ∧ event.key = key

/-- Every emission a row counts was counted by a delivery, and is published when a message of
    the event of that delivery is acknowledged. -/
structure NoneLost (s : State) : Prop where
  counted : ∀ row ∈ s.fusion.db.hypotheses, ∀ n, 1 ≤ n → n ≤ row.incidentCandidateEmissions →
    ∃ worker ∈ s.fusion.workers, ∃ candidate, worker.counted = some candidate ∧
      candidate.hypothesisId = row.id ∧ candidate.emissionNumber = n
  published : ∀ worker ∈ s.fusion.workers, ∀ candidate, worker.counted = some candidate →
    s.Acknowledged worker.event.key → (.candidate candidate, true) ∈ s.fusion.handed

/-- No candidate is dropped: its publish is taken, its delivery does not stop before it, and no
    other delivery of the event is answered before it. -/
def Undropped (s : State) : Label → Prop
  | .advance i env => ∀ m update candidate,
    s.fusion.workers[i]? = some (.publishingCandidate m update candidate) → env.accepted = true
  | .stop i => ∀ worker, s.fusion.workers[i]? = some worker → worker.pending = []
  | .answer i => ∀ worker, s.fusion.workers[i]? = some worker →
    ∀ (j : ℕ) message other, s.deliveries[j]? = some ⟨message, .running⟩ →
      s.fusion.workers[j]? = some other → other.event.key = worker.event.key → other.pending = []
  | .store _ | .deliver _ => True

/-- The invariant of the runs that drop nothing. -/
structure Inv (s : State) : Prop where
  fusion : s.fusion.Inv
  length : s.deliveries.length = s.fusion.workers.length
  payload : ∀ {i : ℕ} {delivery worker}, s.deliveries[i]? = some delivery →
    s.fusion.workers[i]? = some worker →
    ∃ message, s.stream[delivery.message]? = some message ∧ message.payload = some worker.event
  counted : ∀ candidate ∈ s.fusion.candidates,
    ∃ worker ∈ s.fusion.workers, worker.counted = some candidate
  published : ∀ worker ∈ s.fusion.workers, worker.pending = [] →
    ∀ candidate, worker.counted = some candidate → (.candidate candidate, true) ∈ s.fusion.handed
  /-- A delivery that is over holds no candidate back. -/
  ended : ∀ {i : ℕ} {delivery worker}, s.deliveries[i]? = some delivery →
    delivery.status ≠ .running → s.fusion.workers[i]? = some worker → worker.pending = []
  /-- An acknowledged event is recorded, and none of its deliveries holds a candidate. -/
  acked : ∀ message ∈ s.stream, message.acked = true → ∀ event, message.payload = some event →
    s.fusion.db.Recorded event.key ∧
      ∀ worker ∈ s.fusion.workers, worker.event.key = event.key → worker.pending = []

theorem Inv.init : Inv .init where
  fusion := Fusion.State.inv_init
  length := rfl
  payload := fun h => nomatch h
  counted := fun _ h => nomatch h
  published := fun _ h => nomatch h
  ended := fun h => nomatch h
  acked := fun _ h => nomatch h

variable {s s' : State}

theorem Inv.noneLost (h : Inv s) : NoneLost s where
  counted := by
    intro row hrow n hpos hle
    have hnumber : n ∈ (s.fusion.candidates.filter fun c => c.hypothesisId = row.id).map
        (·.emissionNumber) := by
      refine (h.fusion.emissions.numbered row hrow).mem_iff.mpr (List.mem_range'_1.mpr ⟨hpos, ?_⟩)
      omega
    obtain ⟨candidate, hmem, rfl⟩ := List.mem_map.mp hnumber
    obtain ⟨hproduced, hid⟩ := List.mem_filter.mp hmem
    obtain ⟨worker, hworker, hcounted⟩ := h.counted candidate hproduced
    exact ⟨worker, hworker, candidate, hcounted, of_decide_eq_true hid, rfl⟩
  published := by
    rintro worker hworker candidate hcounted ⟨message, hmessage, hacked, event, hpayload, hkey⟩
    have hpending := (h.acked message hmessage hacked event hpayload).2 worker hworker hkey.symm
    exact h.published worker hworker hpending candidate hcounted

/-- A change of the stream that keeps its messages in their places. -/
theorem Inv.restream (h : Inv s) {stream : List StreamMessage}
    (hkeeps : ∀ (j : ℕ) message, s.stream[j]? = some message →
      ∃ later, stream[j]? = some later ∧ later.payload = message.payload)
    (hacked : ∀ later ∈ stream, later.acked = true → later ∈ s.stream) :
    Inv { s with stream } where
  fusion := h.fusion
  length := h.length
  payload := by
    intro i delivery worker hdelivery hworker
    obtain ⟨message, hmessage, hpayload⟩ := h.payload hdelivery hworker
    obtain ⟨later, hlater, hsame⟩ := hkeeps _ _ hmessage
    exact ⟨later, hlater, hsame.trans hpayload⟩
  counted := h.counted
  published := h.published
  ended := h.ended
  acked := fun later hlater hack => h.acked later (hacked later hlater hack) hack

/-- One message is replaced by one with its payload, not acknowledged. -/
theorem Inv.setMessage (h : Inv s) {j : ℕ} {message later : StreamMessage}
    (hmessage : s.stream[j]? = some message) (hpayload : later.payload = message.payload)
    (hack : later.acked = false) : Inv { s with stream := s.stream.set j later } := by
  refine h.restream (fun i other hother => ?_) fun other hother hacked => ?_
  · by_cases hij : j = i
    · subst hij
      obtain rfl := Option.some.inj (hmessage.symm.trans hother)
      exact ⟨later, List.getElem?_set_self (List.getElem?_eq_some_iff.mp hmessage).1, hpayload⟩
    · exact ⟨other, (List.getElem?_set_ne hij).trans hother, rfl⟩
  · obtain hold | rfl := List.mem_or_eq_of_mem_set hother
    · exact hold
    · rw [hack] at hacked
      cases hacked

/-! ### Deliveries -/

theorem Inv.start (h : Inv s) {j : ℕ} {message : StreamMessage} {event : NormalisedEvent}
    (hmessage : s.stream[j]? = some message) (hpayload : message.payload = some event)
    {fusion : Fusion.State} (hstep : Fusion.step s.fusion (.deliver event) = some fusion) :
    Inv { s with fusion, deliveries := s.deliveries ++ [⟨j, .running⟩] } := by
  have hfusion := h.fusion.step hstep
  cases hstep
  have hworker {worker : Worker}
      (hmem : worker ∈ s.fusion.workers ++ [Worker.received event]) :
      worker ∈ s.fusion.workers ∨ worker = .received event :=
    (List.mem_append.mp hmem).imp_right List.mem_singleton.mp
  refine ⟨hfusion, ?_, ?_, ?_, ?_, ?_, ?_⟩
  · simp [h.length]
  · intro i delivery worker hdelivery hget
    obtain hold | ⟨rfl, rfl⟩ := List.getElem?_concat_eq_some hdelivery
    · obtain hold' | ⟨rfl, -⟩ := List.getElem?_concat_eq_some hget
      · exact h.payload hold hold'
      · have hlt := (List.getElem?_eq_some_iff.mp hold).1
        rw [h.length] at hlt
        exact absurd hlt (lt_irrefl _)
    · obtain hold' | ⟨-, rfl⟩ := List.getElem?_concat_eq_some hget
      · have hlt := (List.getElem?_eq_some_iff.mp hold').1
        rw [h.length] at hlt
        exact absurd hlt (lt_irrefl _)
      · exact ⟨message, hmessage, hpayload⟩
  · intro candidate hmem
    have hsame : candidate ∈ s.fusion.candidates := by
      simpa [Fusion.State.candidates, Worker.pending] using hmem
    obtain ⟨worker, hin, hcounted⟩ := h.counted candidate hsame
    exact ⟨worker, List.mem_append_left _ hin, hcounted⟩
  · intro worker hmem hpending candidate hcounted
    obtain hold | rfl := hworker hmem
    · exact h.published worker hold hpending candidate hcounted
    · cases hcounted
  · intro i delivery worker hdelivery hstatus hget
    obtain hold' | ⟨-, rfl⟩ := List.getElem?_concat_eq_some hget
    · obtain hold | ⟨-, rfl⟩ := List.getElem?_concat_eq_some hdelivery
      · exact h.ended hold hstatus hold'
      · exact absurd rfl hstatus
    · rfl
  · intro other hother hack event' hpayload'
    obtain ⟨hrecorded, hnone⟩ := h.acked other hother hack event' hpayload'
    refine ⟨hrecorded, fun worker hmem hkey => ?_⟩
    obtain hold | rfl := hworker hmem
    · exact hnone worker hold hkey
    · rfl

/-- A delivery that is answered without an acknowledgement. -/
theorem Inv.settle (h : Inv s) {i j : ℕ} {status old : Status}
    (hdelivery : s.deliveries[i]? = some ⟨j, old⟩)
    (hpending : ∀ worker, s.fusion.workers[i]? = some worker → worker.pending = []) :
    Inv { s with deliveries := s.deliveries.set i ⟨j, status⟩ } where
  fusion := h.fusion
  length := by rw [List.length_set, h.length]
  payload := by
    intro k delivery worker hk hworker
    obtain ⟨rfl, rfl⟩ | ⟨-, hold⟩ := List.getElem?_set_eq_some hk
    · obtain ⟨message, hmessage, hpayload⟩ := h.payload hdelivery hworker
      exact ⟨message, hmessage, hpayload⟩
    · exact h.payload hold hworker
  counted := h.counted
  published := h.published
  ended := by
    intro k delivery worker hk hstatus hworker
    obtain ⟨rfl, rfl⟩ | ⟨-, hold⟩ := List.getElem?_set_eq_some hk
    · exact hpending worker hworker
    · exact h.ended hold hstatus hworker
  acked := h.acked

/-- A step of a worker. -/
theorem Inv.advance (h : Inv s) {i j : ℕ} {env : Env}
    (hdelivery : s.deliveries[i]? = some ⟨j, .running⟩)
    (hun : Undropped s (.advance i env)) {fusion : Fusion.State}
    (hstep : Fusion.step s.fusion (.advance i env) = some fusion) : Inv { s with fusion } := by
  have hfusion := h.fusion.step hstep
  have hgrows := h.fusion.grows hstep
  simp only [Fusion.step, Option.bind_eq_bind, Option.bind_eq_some_iff] at hstep
  obtain ⟨worker, hworker, ⟨db, worker', messages⟩, hadvance, hs'⟩ := hstep
  cases hs'
  obtain ⟨hevent, hmoves⟩ := Worker.moves_of_advance hadvance
  have hmem : worker ∈ s.fusion.workers := List.mem_of_getElem? hworker
  have hself : worker' ∈ s.fusion.workers.set i worker' :=
    List.mem_set (List.getElem?_eq_some_iff.mp hworker).1 worker'
  refine ⟨hfusion, ?_, ?_, ?_, ?_, ?_, ?_⟩
  · simp [h.length]
  · intro k delivery other hk hother
    obtain ⟨rfl, rfl⟩ | ⟨-, hold⟩ := List.getElem?_set_eq_some hother
    · rw [hevent]
      exact h.payload hk hworker
    · exact h.payload hk hold
  · -- the candidates are the old ones and what the worker hands over or holds now
    intro candidate hcandidate
    simp only [Fusion.State.candidates, List.flatMap_append, List.mem_append] at hcandidate
    have hold {candidate : IncidentCandidateMessage} (hin : candidate ∈ s.fusion.candidates) :
        ∃ other ∈ s.fusion.workers.set i worker', other.counted = some candidate := by
      obtain ⟨other, hother, hcounted⟩ := h.counted candidate hin
      obtain ⟨k, hk⟩ := List.getElem?_of_mem hother
      by_cases hik : i = k
      · subst hik
        obtain rfl := Option.some.inj (hworker.symm.trans hk)
        exact ⟨worker', hself, hmoves.counted hcounted⟩
      · exact ⟨other, List.mem_of_getElem? ((List.getElem?_set_ne hik).trans hk), hcounted⟩
    obtain (hhanded | hnew) | hpending := hcandidate
    · exact hold (List.mem_append_left _ hhanded)
    · exact ⟨worker', hself, hmoves.counted (hmoves.handed hnew)⟩
    · obtain ⟨other, hother, hin⟩ := List.mem_flatMap.mp hpending
      exact ⟨other, hother, Worker.pending_subset hin⟩
  · intro other hother hpending candidate hcounted
    obtain hold | rfl := List.mem_or_eq_of_mem_set hother
    · exact List.mem_append_left _ (h.published other hold hpending candidate hcounted)
    · cases hmoves with
      | quiet _ hafter => cases hafter.symm.trans hcounted
      | commits _ _ hlater =>
        rw [hcounted, hpending] at hlater
        cases hlater
      | keeps _ _ hlater =>
        rw [hcounted, hpending] at hlater
        cases hlater
      | publishes candidate' m update hbefore hafter _ hmessages =>
        subst hbefore
        obtain rfl := Option.some.inj (hafter.symm.trans hcounted)
        have haccepted := hun m update candidate' hworker
        rw [hmessages, haccepted]
        exact List.mem_append_right _ (List.mem_singleton.mpr rfl)
  · intro k delivery other hk hstatus hother
    obtain ⟨rfl, rfl⟩ | ⟨-, hold⟩ := List.getElem?_set_eq_some hother
    · obtain rfl := Option.some.inj (hdelivery.symm.trans hk)
      exact absurd rfl hstatus
    · exact h.ended hk hstatus hold
  · intro message hmessage hack event hpayload
    obtain ⟨hrecorded, hnone⟩ := h.acked message hmessage hack event hpayload
    refine ⟨hgrows.recorded _ hrecorded, fun other hother hkey => ?_⟩
    obtain hold | heq := List.mem_or_eq_of_mem_set hother
    · exact hnone other hold hkey
    · -- a recorded event is not applied again
      subst heq
      rw [hevent] at hkey
      have hbefore := hnone worker hmem hkey
      cases hmoves with
      | quiet _ hafter =>
        refine List.eq_nil_iff_forall_not_mem.mpr fun candidate hin => ?_
        cases hafter.symm.trans (Worker.pending_subset hin)
      | commits _ hnew => exact absurd (hkey ▸ hrecorded) hnew
      | keeps hsame hpending hlater => rw [hlater, hsame, ← hpending, hbefore]
      | publishes _ _ _ _ _ hpending => exact hpending

/-- The acknowledgement of a delivery whose worker has returned. -/
theorem Inv.acknowledge (h : Inv s) {i j : ℕ} {event : NormalisedEvent} {result : ApplyEventResult}
    (hdelivery : s.deliveries[i]? = some ⟨j, .running⟩)
    (hworker : s.fusion.workers[i]? = some (.finished event result))
    (hun : Undropped s (.answer i)) :
    Inv { s with stream := s.ack j, deliveries := s.deliveries.set i ⟨j, .acknowledged⟩ } := by
  have hsettled : Inv { s with deliveries := s.deliveries.set i ⟨j, .acknowledged⟩ } :=
    h.settle hdelivery fun worker hget => by
      obtain rfl := Option.some.inj (hworker.symm.trans hget)
      rfl
  obtain ⟨message, hmessage, hpayload⟩ := h.payload hdelivery hworker
  have hack : s.ack j = s.stream.set j { message with acked := true } := by
    rw [State.ack, hmessage]
  refine ⟨h.fusion, hsettled.length, ?_, h.counted, h.published, hsettled.ended, ?_⟩
  · intro k delivery worker hk hget
    obtain ⟨other, hother, hsame⟩ := hsettled.payload hk hget
    show ∃ later, (s.ack j)[delivery.message]? = some later ∧ _
    rw [hack]
    by_cases hj : j = delivery.message
    · subst hj
      obtain rfl := Option.some.inj (hmessage.symm.trans hother)
      exact ⟨_, List.getElem?_set_self (List.getElem?_eq_some_iff.mp hmessage).1, hsame⟩
    · exact ⟨other, (List.getElem?_set_ne hj).trans hother, hsame⟩
  · intro later hlater hacked event' hpayload'
    have hin : later ∈ s.stream.set j { message with acked := true } := hack ▸ hlater
    obtain hold | rfl := List.mem_or_eq_of_mem_set hin
    · exact h.acked later hold hacked event' hpayload'
    · obtain rfl : event = event' := Option.some.inj (hpayload.symm.trans hpayload')
      refine ⟨h.fusion.owes _ (List.mem_of_getElem? hworker), fun other hother hkey => ?_⟩
      obtain ⟨k, hk⟩ := List.getElem?_of_mem hother
      have hlt : k < s.deliveries.length := h.length ▸ (List.getElem?_eq_some_iff.mp hk).1
      obtain ⟨⟨message', status⟩, hget⟩ : ∃ delivery, s.deliveries[k]? = some delivery :=
        ⟨_, List.getElem?_eq_getElem hlt⟩
      by_cases hrunning : status = .running
      · subst hrunning
        exact hun _ hworker k message' other hget hk hkey
      · exact h.ended hget hrunning hk

/-- What one step keeps that drops nothing. -/
theorem Inv.step (h : Inv s) {label : Label} (hun : Undropped s label)
    (hstep : step s label = some s') : Inv s' := by
  cases label with
  | store payload =>
    cases hstep
    refine h.restream (fun j message hmessage => ⟨message, ?_, rfl⟩) fun later hlater hack => ?_
    · rw [List.getElem?_append_left (List.getElem?_eq_some_iff.mp hmessage).1, hmessage]
    · rcases List.of_mem_concat hlater with hold | rfl
      · exact hold
      · cases hack
  | deliver j =>
    simp only [Consumer.step, State.deliver] at hstep
    split at hstep
    · cases hstep
    rename_i message hmessage
    split at hstep
    · cases hstep
    rename_i hopen
    have hnotAcked : message.acked = false := by
      cases hacked : message.acked with
      | false => rfl
      | true => exact absurd (Or.inl hacked) hopen
    split at hstep
    · cases hstep
      exact h.setMessage hmessage rfl hnotAcked
    · rename_i event hpayload
      obtain ⟨fusion, hdeliver, rfl⟩ := Option.map_eq_some_iff.mp hstep
      have hset : Inv { s with
          stream := s.stream.set j { message with delivered := message.delivered + 1 } } :=
        h.setMessage hmessage rfl hnotAcked
      exact hset.start (List.getElem?_set_self (List.getElem?_eq_some_iff.mp hmessage).1) hpayload
        hdeliver
  | advance i env =>
    simp only [Consumer.step, State.advance] at hstep
    split at hstep
    · rename_i hdelivery
      obtain ⟨fusion, hadvance, rfl⟩ := Option.map_eq_some_iff.mp hstep
      exact h.advance hdelivery hun hadvance
    · cases hstep
  | answer i =>
    simp only [Consumer.step, State.answer] at hstep
    split at hstep
    · rename_i hdelivery hworker
      cases hstep
      exact h.acknowledge hdelivery hworker hun
    · rename_i hdelivery hworker
      cases hstep
      refine h.settle hdelivery fun worker hget => ?_
      obtain rfl := Option.some.inj (hworker.symm.trans hget)
      rfl
    · cases hstep
  | stop i =>
    simp only [Consumer.step, State.stop] at hstep
    split at hstep
    · rename_i hdelivery
      cases hstep
      exact h.settle hdelivery hun
    · cases hstep

/-- **No crossing is lost** in the runs that drop no candidate. -/
theorem noneLost_of_undropped {labels : List Label}
    (hall : Transition.RunAll step Undropped .init labels)
    (hrun : Transition.run step .init labels = some s) : NoneLost s :=
  (Transition.runAll_invariant (fun h hun hstep => Inv.step h hun hstep) Inv.init hall
    hrun).noneLost

/-- The condition, computed for the runs whose deliveries all run to their end. -/
def undroppedCheck (s : State) : Label → Bool
  | .advance _ env => env.accepted
  | .stop _ => false
  | .answer _ => s.fusion.workers.all fun worker => worker.pending = []
  | .store _ | .deliver _ => true

theorem undropped_of_check (s : State) (label : Label) (h : undroppedCheck s label = true) :
    Undropped s label := by
  cases label with
  | store payload => trivial
  | deliver j => trivial
  | advance i env => exact fun _ _ _ _ => h
  | answer i =>
    intro _ _ _ _ other _ hother _
    exact of_decide_eq_true (List.all_eq_true.mp h other (List.mem_of_getElem? hother))
  | stop i => cases h

/-- A denied credential at a door: one event takes its window to state 2. -/
def deniedEvent : NormalisedEvent :=
  { eventId := "evt_1", organisationId := "org", siteId := "site", zoneId := none
    sourceType := .access, sourceId := "door", sourceTrust := .trusted
    eventType := "access_denied_attempt", confidence := 9 / 10, occurredAt := 0, metadata := [] }

/-- The event is delivered and acknowledged; `accepted` says whether its candidate is taken. -/
def deniedOnce (accepted : Bool) : List Label :=
  [.store (some deniedEvent), .deliver 0] ++
    List.replicate 5 (.advance 0 { id := "h", incidentCandidateId := "c" }) ++
    [.advance 0 { accepted }, .answer 0]

theorem noneLost_deniedOnce :
    ∃ s, Transition.run step .init (deniedOnce true) = some s ∧
      s.fusion.db.hypotheses.map (·.incidentCandidateEmissions) = [1] ∧ NoneLost s := by
  have hcounts : (Transition.run step .init (deniedOnce true)).map (fun s =>
      s.fusion.db.hypotheses.map (·.incidentCandidateEmissions)) = some [1] := by decide +kernel
  obtain ⟨s, hrun, hcount⟩ := Option.map_eq_some_iff.mp hcounts
  have hall : Transition.RunAll step Undropped .init (deniedOnce true) :=
    Transition.runAll_of_checked undropped_of_check (by decide +kernel)
  exact ⟨s, hrun, hcount, noneLost_of_undropped hall hrun⟩

def unpublished : Message × Bool → Bool
  | (.candidate _, accepted) => !accepted
  | (.update _, _) => true

/-- The publish of the candidate fails, and the message is acknowledged all the same. -/
theorem refused_candidate_lost :
    ¬ ∀ labels s, Transition.run step .init labels = some s → NoneLost s := by
  intro h
  have hrows : (Transition.run step .init (deniedOnce false)).map (fun s =>
      (s.fusion.workers.map fun worker => (worker.event, worker.counted.isSome),
        s.stream.map fun message => (message.acked, message.payload),
        s.fusion.handed.all unpublished)) =
      some ([(deniedEvent, true)], [(true, some deniedEvent)], true) := by decide +kernel
  obtain ⟨s, hrun, hrow⟩ := Option.map_eq_some_iff.mp hrows
  obtain ⟨hworkers, hrest⟩ := Prod.mk.inj hrow
  obtain ⟨hstream, hhanded⟩ := Prod.mk.inj hrest
  obtain ⟨worker, hone, hworker⟩ := List.map_eq_singleton_iff.mp hworkers
  obtain ⟨message, hmessage, hmessageRow⟩ := List.map_eq_singleton_iff.mp hstream
  obtain ⟨hacked, hpayload⟩ := Prod.mk.inj hmessageRow
  obtain ⟨hevent, hcounted⟩ := Prod.mk.inj hworker
  obtain ⟨candidate, hcandidate⟩ := Option.isSome_iff_exists.mp hcounted
  have hack : s.Acknowledged worker.event.key :=
    ⟨message, hmessage ▸ List.mem_singleton.mpr rfl, hacked, deniedEvent, hpayload,
      congrArg NormalisedEvent.key hevent.symm⟩
  have hpublished := (h _ s hrun).published worker (hone ▸ List.mem_singleton.mpr rfl) candidate
    hcandidate hack
  cases List.all_eq_true.mp hhanded _ hpublished

end Consumer

end Sentinel.Fusion
