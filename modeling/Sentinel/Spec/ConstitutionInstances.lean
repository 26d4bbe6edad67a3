import Sentinel.ForStd.Except
import Sentinel.Spec.ConstitutionSuccession

/-! # What the instances hold

Every policy that an instance has loaded, or that a call has read or is decided under, is a
member of the succession: the last one of the time it was read at.  A member keeps its place, so
what was once read stays true of the past. -/

namespace Sentinel.Constitution

variable {ι : Type} {platform : Platform}

/-- The version was the last of the succession when `readAt` versions had been active. -/
def ReadAt (succession : List String) (readAt : Nat) (version : String) : Prop :=
  ∃ n, readAt = n + 1 ∧ succession[n]? = some version

variable {succession : List String} {version : String} {command : ActivatePolicyCommand}
  {gate : Evaluation} {call : Call} {i : ι} {t : Nat} {env : Env}

theorem ReadAt.last
    (h : succession.getLast? = some version) : ReadAt succession succession.length version := by
  have hpos : 0 < succession.length := List.length_pos_of_mem (List.mem_of_getLast? h)
  refine ⟨succession.length - 1, by omega, ?_⟩
  rw [← h, List.getLast?_eq_getElem?]

theorem ReadAt.mono {later : List String} {readAt : Nat}
    (h : ReadAt succession readAt version) (hbefore : succession <+: later) :
    ReadAt later readAt version := by
  obtain ⟨n, hn, hget⟩ := h
  obtain ⟨rest, rfl⟩ := hbefore
  refine ⟨n, hn, ?_⟩
  rw [List.getElem?_append_left (List.getElem?_eq_some_iff.mp hget).1]
  exact hget

theorem ReadAt.version_eq {readAt : Nat} {a b : String}
    (ha : ReadAt succession readAt a) (hb : ReadAt succession readAt b) : a = b := by
  obtain ⟨n, rfl, ha⟩ := ha
  obtain ⟨m, hm, hb⟩ := hb
  obtain rfl : n = m := by omega
  exact Option.some_inj.mp (ha.symm.trans hb)

/-- No version is active twice. -/
theorem ReadAt.readAt_eq {a b : Nat} (honce : succession.Nodup) (ha : ReadAt succession a version)
    (hb : ReadAt succession b version) : a = b := by
  obtain ⟨n, rfl, ha⟩ := ha
  obtain ⟨m, rfl, hb⟩ := hb
  obtain ⟨hn, -⟩ := List.getElem?_eq_some_iff.mp ha
  rw [(List.getElem?_inj hn honce).mp (ha.trans hb.symm)]

def Holds (rows : List StoredPolicy) (version : String) (policy : Policy) : Prop :=
  ∃ row ∈ rows, row.version = version ∧ row.body = policy

theorem Holds.mono {rows later : List StoredPolicy} {policy : Policy}
    (h : Holds rows version policy) (hgrows : Table.Grows Keeps rows later) :
    Holds later version policy := by
  obtain ⟨row, hmem, rfl, rfl⟩ := h
  obtain ⟨row', hmem', hkeeps⟩ := hgrows.exists_later hmem
  exact ⟨row', hmem', hkeeps⟩

/-- A later state of the store. -/
structure Extends (s s' : State ι) : Prop where
  rows : Table.Grows Keeps s.rows s'.rows
  succession : s.succession <+: s'.succession

theorem Extends.of_eq {s s' : State ι} (hrows : s'.rows = s.rows)
    (hsuccession : s'.succession = s.succession) : Extends s s' :=
  ⟨hrows ▸ Table.Grows.refl Keeps.refl s.rows, hsuccession ▸ List.prefix_refl _⟩

theorem Extends.trans {s t u : State ι} (h₁ : Extends s t) (h₂ : Extends t u) : Extends s u :=
  ⟨h₁.rows.trans Keeps.trans h₂.rows, h₁.succession.trans h₂.succession⟩

/-! ## The invariant -/

structure Loaded (s : State ι) (loaded : Dated LoadedPolicy) : Prop where
  readAt : ReadAt s.succession loaded.readAt loaded.value.version
  holds : Holds s.rows loaded.value.version loaded.value.policy
  version : loaded.value.policy.version = loaded.value.version

/-- The gate of an activation: the rule-alteration action, evaluated under a policy that was
    read. -/
structure Gate (platform : Platform) (s : State ι) (command : ActivatePolicyCommand)
    (gate : Evaluation) : Prop where
  loaded : Loaded s gate.loaded
  request : gate.record.request = activationRequest command
  decision : gate.decision =
    evaluate platform.text (activationRequest command) gate.loaded.value.policy

/-- A committed activation retired nothing, or the incumbent of its time. -/
def Committed (s : State ι) (activation : Activation) : Prop :=
  activation.retired = [] ∨
    ∃ version, ReadAt s.succession activation.position version ∧ activation.retired = [version]

/-- What a call in its phase relies on. -/
def CallSound (platform : Platform) (s : State ι) : Call → Prop
  | .seeding activation | .reading activation => ∀ a ∈ activation, Committed s a
  | .installing activation stored => (∀ a ∈ activation, Committed s a) ∧
    ∀ row ∈ stored.value, ReadAt s.succession stored.readAt row.version ∧
      Holds s.rows row.version row.body
  | .gating command gate => Gate platform s command gate
  | .lookingUp command gate | .activating command gate =>
    Gate platform s command gate ∧ gate.decision.decision = .allow
  | .finished (.activated activation _) => Committed s activation
  | .recording _ | .finished _ => True

structure Inv (platform : Platform) (s : State ι) : Prop where
  succeeds : Succeeds s.rows s.succession
  loaded : ∀ i loaded, s.loaded i = some loaded → Loaded s loaded
  calls : ∀ entry ∈ s.calls, CallSound platform s entry.2

variable {s s' : State ι}

theorem Loaded.mono {loaded : Dated LoadedPolicy} (h : Loaded s loaded) (hext : Extends s s') :
    Loaded s' loaded :=
  ⟨h.readAt.mono hext.succession, h.holds.mono hext.rows, h.version⟩

theorem Gate.mono
    (h : Gate platform s command gate) (hext : Extends s s') : Gate platform s' command gate :=
  ⟨h.loaded.mono hext, h.request, h.decision⟩

theorem Committed.mono {activation : Activation} (h : Committed s activation)
    (hext : Extends s s') : Committed s' activation :=
  h.imp_right fun ⟨version, hread, hretired⟩ => ⟨version, hread.mono hext.succession, hretired⟩

theorem CallSound.mono (h : CallSound platform s call) (hext : Extends s s') :
    CallSound platform s' call := by
  cases call with
  | seeding activation => exact fun a ha => (h a ha).mono hext
  | reading activation => exact fun a ha => (h a ha).mono hext
  | installing activation stored =>
    refine ⟨fun a ha => (h.1 a ha).mono hext, fun row hrow => ?_⟩
    obtain ⟨hread, hholds⟩ := h.2 row hrow
    exact ⟨hread.mono hext.succession, hholds.mono hext.rows⟩
  | recording evaluation => exact trivial
  | gating command gate => exact Gate.mono h hext
  | lookingUp command gate => exact ⟨h.1.mono hext, h.2⟩
  | activating command gate => exact ⟨h.1.mono hext, h.2⟩
  | finished answer =>
    cases answer with
    | activated activation active => exact Committed.mono h hext
    | _ => exact trivial

/-- The invariant after a step, from what the step adds. -/
theorem Inv.advance (h : Inv platform s) (hext : Extends s s')
    (hsucceeds : Succeeds s'.rows s'.succession)
    (hloaded : ∀ i loaded, s'.loaded i = some loaded → s.loaded i = some loaded ∨ Loaded s' loaded)
    (hcalls : ∀ entry ∈ s'.calls, entry ∈ s.calls ∨ CallSound platform s' entry.2) :
    Inv platform s' := by
  refine ⟨hsucceeds, fun i loaded hmem => ?_, fun entry hmem => ?_⟩
  · obtain hold | hnew := hloaded i loaded hmem
    · exact (h.loaded i loaded hold).mono hext
    · exact hnew
  · obtain hold | hnew := hcalls entry hmem
    · exact (h.calls entry hold).mono hext
    · exact hnew

theorem Inv.init : Inv platform (State.init : State ι) :=
  ⟨Succeeds.nil, (fun _ _ h => nomatch h), fun _ h => nomatch h⟩

/-! ## Steps -/

theorem Inv.start (h : Inv platform s) (hcall : CallSound platform s call) :
    Inv platform (s.start i call) ∧ Extends s (s.start i call) := by
  have hext : Extends s (s.start i call) := .of_eq rfl rfl
  refine ⟨h.advance hext h.succeeds (fun _ _ hmem => .inl hmem) fun entry hmem => ?_, hext⟩
  rcases List.of_mem_concat hmem with hold | rfl
  · exact .inl hold
  · exact .inr (hcall.mono hext)

theorem Inv.next (h : Inv platform s) (hcall : CallSound platform s call) :
    Inv platform (s.next t i call) ∧ Extends s (s.next t i call) := by
  have hext : Extends s (s.next t i call) := .of_eq rfl rfl
  refine ⟨h.advance hext h.succeeds (fun _ _ hmem => .inl hmem) fun entry hmem => ?_, hext⟩
  refine (List.mem_or_eq_of_mem_set hmem).imp_right ?_
  rintro rfl
  exact hcall.mono hext

theorem Inv.throws (h : Inv platform s) {error : ConstitutionError} :
    Inv platform (s.throws t i error) ∧ Extends s (s.throws t i error) :=
  h.next trivial

theorem Inv.record (h : Inv platform s) (record : DecisionRecordInput) :
    Inv platform { s with ledger := s.ledger ++ [record] } := by
  have hext : Extends s { s with ledger := s.ledger ++ [record] } := .of_eq rfl rfl
  exact h.advance hext h.succeeds (fun _ _ hmem => .inl hmem) fun _ hmem => .inl hmem

theorem Inv.createDraft (h : Inv platform s) {policy : Policy} {createdBy : String} :
    Inv platform (s.createDraft platform policy createdBy env) ∧
      Extends s (s.createDraft platform policy createdBy env) := by
  rw [State.createDraft]
  cases hcreate : Constitution.createDraft platform s.rows policy createdBy env.stamp with
  | error error => exact ⟨h, .of_eq rfl rfl⟩
  | ok rows =>
    obtain ⟨hsucceeds, hgrows⟩ := h.succeeds.createDraft hcreate
    have hext : Extends s { s with rows } := ⟨hgrows, List.prefix_refl _⟩
    exact ⟨h.advance hext hsucceeds (fun _ _ hmem => .inl hmem) (fun _ hmem => .inl hmem), hext⟩

theorem Inv.evaluate (h : Inv platform s) {request : Request}
    {traceId : Option String} : Inv platform (s.evaluate platform i request traceId env) ∧
      Extends s (s.evaluate platform i request traceId env) := by
  rw [State.evaluate]
  cases s.loaded i <;> exact h.start trivial

theorem Inv.activatePolicy (h : Inv platform s) : Inv platform
    (s.activatePolicy platform i command env) ∧
      Extends s (s.activatePolicy platform i command env) := by
  rw [State.activatePolicy]
  cases hloaded : s.loaded i with
  | none => exact h.start trivial
  | some loaded =>
    have hgate : Gate platform s command
        (evaluateUnder platform loaded (activationRequest command) command.traceId env) :=
      ⟨h.loaded i loaded hloaded, rfl, rfl⟩
    exact h.start hgate

theorem Inv.seed (h : Inv platform s) {activation : Option Activation}
    (hcall : CallSound platform s (.seeding activation)) :
    Inv platform (s.seed platform t i activation env) ∧
      Extends s (s.seed platform t i activation env) := by
  rw [State.seed]
  cases hseed : seedBaselineOnce platform s.rows env.stamp with
  | error error => exact h.throws
  | ok rows =>
    by_cases hrows : s.rows.length > 0
    · obtain rfl : s.rows = rows := by simpa [seedBaselineOnce, hrows] using hseed
      have hnext : Inv platform (s.next t i (.reading activation)) ∧
          Extends s (s.next t i (.reading activation)) := h.next hcall
      simp only [if_pos hrows]
      exact hnext
    · obtain ⟨hsucceeds, hnone, -⟩ := h.succeeds.seed hrows hseed
      simp only [if_neg hrows]
      have hempty : s.rows = [] := List.length_eq_zero_iff.mp (Nat.eq_zero_of_not_pos hrows)
      have hext : Extends s { s.next t i (.reading activation) with
          rows, succession := s.succession ++ rows.map (·.version) } := by
        refine ⟨?_, List.prefix_append _ _⟩
        rw [hempty]
        exact Table.Grows.append Keeps.refl [] rows
      refine ⟨h.advance hext hsucceeds (fun _ _ hmem => .inl hmem) fun entry hmem => ?_, hext⟩
      refine (List.mem_or_eq_of_mem_set hmem).imp_right ?_
      rintro rfl
      have hreading : CallSound platform s (.reading activation) := hcall
      exact hreading.mono hext

theorem loadStored_eq_ok {row : StoredPolicy} {loaded : LoadedPolicy}
    (h : loadStored platform row = .ok loaded) :
    loaded.version = row.version ∧ loaded.policy = row.body ∧
      loaded.policy.version = loaded.version := by
  rw [loadStored] at h
  obtain ⟨policy, hparse, h⟩ := Except.bind_eq_ok.mp h
  obtain ⟨policy', hvalid, h⟩ := Except.bind_eq_ok.mp h
  obtain rfl : row.body = policy := by
    rw [parsePolicy] at hparse
    split at hparse
    · exact Except.ok.inj hparse
    · cases hparse
  obtain rfl : row.body = policy' := by
    rw [assertValidPolicy] at hvalid
    split at hvalid
    · exact Except.ok.inj hvalid
    · cases hvalid
  dsimp only at h
  split at h
  · cases h
  split at h
  · cases h
  rename_i hversion
  cases h
  exact ⟨rfl, rfl, Decidable.not_not.mp hversion⟩

theorem Inv.install [DecidableEq ι] (h : Inv platform s) {activation : Option Activation}
    {stored : Dated (Option StoredPolicy)}
    (hcall : CallSound platform s (.installing activation stored)) :
    Inv platform (s.install platform t i activation stored) ∧
      Extends s (s.install platform t i activation stored) := by
  rw [State.install]
  cases hvalue : stored.value with
  | none => exact h.throws
  | some row =>
    dsimp only
    cases hload : loadStored platform row with
    | error error => exact h.throws
    | ok loaded =>
      obtain ⟨hversion, hpolicy, hdeclared⟩ := loadStored_eq_ok hload
      obtain ⟨hread, hholds⟩ := hcall.2 row hvalue
      refine ⟨h.advance (.of_eq rfl rfl) h.succeeds (fun j other hmem => ?_) fun entry hmem => ?_,
        .of_eq rfl rfl⟩
      · have hupdate : Function.update s.loaded i (some ⟨loaded, stored.readAt⟩) j = some other :=
          hmem
        by_cases hj : j = i
        · subst hj
          rw [Function.update_self] at hupdate
          cases hupdate
          refine .inr ⟨?_, ?_, hdeclared⟩
          · exact hversion ▸ hread
          · exact hversion ▸ hpolicy ▸ hholds
        · rw [Function.update_of_ne hj] at hupdate
          exact .inl hupdate
      · refine (List.mem_or_eq_of_mem_set hmem).imp_right ?_
        rintro rfl
        cases activation with
        | none => exact trivial
        | some activation => exact (hcall.1 activation rfl).mono (.of_eq rfl rfl)

theorem Inv.passGate (h : Inv platform s) (hgate : Gate platform s command gate) :
    Inv platform (s.passGate t i command gate) ∧ Extends s (s.passGate t i command gate) := by
  let recorded : State ι := { s with ledger := s.ledger ++ [gate.record] }
  have hrecorded : Inv platform recorded := h.record gate.record
  have hnext {call : Call} (hcall : CallSound platform recorded call) :
      Inv platform (recorded.next t i call) ∧ Extends s (recorded.next t i call) :=
    ⟨(hrecorded.next hcall).1, .of_eq rfl rfl⟩
  rw [State.passGate]
  dsimp only
  split
  · cases s.loaded i with
    | none =>
      have hcall : CallSound platform recorded (.finished (.failed .constitutionNotLoaded)) := trivial
      exact hnext hcall
    | some loaded =>
      have hcall : CallSound platform recorded
        (.finished (.refused gate.decision loaded.value)) := trivial
      exact hnext hcall
  · rename_i hallow
    have hcall : CallSound platform recorded (.lookingUp command gate) :=
      ⟨hgate.mono (.of_eq rfl rfl), Decidable.not_not.mp hallow⟩
    exact hnext hcall

theorem Inv.lookUp (h : Inv platform s) (hgate : CallSound platform s (.lookingUp command gate)) :
    Inv platform (s.lookUp t i command gate) ∧ Extends s (s.lookUp t i command gate) := by
  rw [State.lookUp]
  split
  · exact h.throws
  · split
    · exact h.throws
    · have hcall : CallSound platform s (.activating command gate) := hgate
      exact h.next hcall

theorem retired_of_draft (h : Inv platform s) {incumbent : String}
    (hlast : s.succession.getLast? = some incumbent) (hnew : version ∉ s.succession) :
    (s.rows.filter fun row => row.isActive ∧ row.version ≠ version).map (·.version) =
      [incumbent] := by
  obtain ⟨row, hmem, hversion, hactive⟩ := h.succeeds.exists_active hlast
  have hkey : ∀ other ∈ s.rows, other.isActive = true → other.version = incumbent :=
    fun other hother hit =>
      Option.some_inj.mp (((h.succeeds.isActive_iff hother).mp hit).symm.trans hlast)
  have hsame : (s.rows.filter fun row => row.isActive ∧ row.version ≠ version) =
      s.rows.filter (·.isActive) := by
    refine List.filter_congr fun other hother => ?_
    by_cases hit : other.isActive = true
    · have hne : other.version ≠ version := fun heq =>
        hnew (heq ▸ List.mem_of_getLast? ((h.succeeds.isActive_iff hother).mp hit))
      simp [hit, hne]
    · simp [hit]
  have hone : (s.rows.filter (·.isActive)).length = 1 := by
    rw [← List.countP_eq_length_filter]
    exact h.succeeds.countP_isActive (List.ne_nil_of_mem (List.mem_of_getLast? hlast))
  obtain ⟨only, honly⟩ := List.length_eq_one_iff.mp hone
  have hin : only ∈ s.rows.filter (·.isActive) := honly ▸ List.mem_singleton.mpr rfl
  rw [hsame, honly, List.map_singleton]
  rw [hkey only (List.mem_filter.mp hin).1 (List.mem_filter.mp hin).2]

theorem isInForce_iff (h : Inv platform s) :
    s.isInForce version = true ↔ s.succession.getLast? = some version := by
  rw [State.isInForce]
  cases hfound : findByVersion s.rows version with
  | none =>
    refine ⟨(fun hnone => nomatch hnone), fun hlast => ?_⟩
    obtain ⟨row, hmem, hversion, -⟩ := h.succeeds.exists_active hlast
    rw [h.succeeds.findByVersion_eq_some.mpr ⟨hmem, hversion⟩] at hfound
    cases hfound
  | some row =>
    obtain ⟨hmem, rfl⟩ := h.succeeds.findByVersion_eq_some.mp hfound
    exact h.succeeds.isActive_iff hmem

/-- The gate of an activation read a version, so there is an incumbent. -/
theorem exists_incumbent (hgate : Gate platform s command gate) :
    ∃ incumbent, s.succession.getLast? = some incumbent := by
  obtain ⟨n, -, hget⟩ := hgate.loaded.readAt
  have hne : s.succession ≠ [] := List.ne_nil_of_mem (List.mem_of_getElem? hget)
  exact ⟨_, List.getLast?_eq_some_getLast hne⟩

/-- What the transaction of an activation does to the store. -/
inductive Commits (s s' : State ι) (version : String) : Prop
  /-- It throws, or the version is in force already. -/
  | unchanged (hrows : s'.rows = s.rows) (hsuccession : s'.succession = s.succession)
  /-- A draft succeeds the incumbent. -/
  | succeeds (now : Int) (hstored : version ∈ s.rows.map (·.version))
      (hnew : version ∉ s.succession)
      (hrows : s'.rows = s.rows.map (Succeeds.installed version now))
      (hsuccession : s'.succession = s.succession ++ [version])

theorem commitActivation_commits (h : Inv platform s) :
    Commits s (s.commitActivation t i command gate env) command.version := by
  rw [State.commitActivation]
  cases hactivate : activate s.rows command.version env.stamp.now with
  | error error => exact .unchanged rfl rfl
  | ok rows =>
    dsimp only
    obtain ⟨hlast, hrows⟩ | ⟨hnew, hstored, hrows⟩ := h.succeeds.activate hactivate
    · exact .unchanged hrows (if_pos ((isInForce_iff h).mpr hlast))
    · have hnot : ¬ s.isInForce command.version = true := fun hin =>
        hnew (List.mem_of_getLast? ((isInForce_iff h).mp hin))
      exact .succeeds env.stamp.now hstored hnew hrows (if_neg hnot)

theorem Commits.extends (hcommits : Commits s s' version) : Extends s s' := by
  cases hcommits with
  | unchanged hrows hsuccession => exact .of_eq hrows hsuccession
  | succeeds now hstored hnew hrows hsuccession =>
    refine ⟨?_, hsuccession ▸ List.prefix_append _ _⟩
    rw [hrows]
    have hfollows : Table.Follows Keeps s.rows (s.rows.map (Succeeds.installed version now)) :=
      ⟨_, Succeeds.keeps_installed version now, rfl⟩
    exact hfollows.grows

theorem Commits.succeeds_rows (hcommits : Commits s s' version)
    (h : Succeeds s.rows s.succession) : Succeeds s'.rows s'.succession := by
  cases hcommits with
  | unchanged hrows hsuccession => rwa [hrows, hsuccession]
  | succeeds now hstored hnew hrows hsuccession =>
    rw [hrows, hsuccession]
    exact h.installed_rows now hstored hnew

theorem Inv.commitActivation (h : Inv platform s) (hgate : Gate platform s command gate) :
    Inv platform (s.commitActivation t i command gate env) ∧
      Extends s (s.commitActivation t i command gate env) := by
  have hcommits : Commits s (s.commitActivation t i command gate env) command.version :=
    commitActivation_commits h
  have hext := hcommits.extends
  refine ⟨h.advance hext (hcommits.succeeds_rows h.succeeds) ?_ ?_, hext⟩
  · intro j loaded hmem
    rw [State.commitActivation] at hmem
    split at hmem <;> exact .inl hmem
  · intro entry hmem
    rw [State.commitActivation] at hmem
    split at hmem
    · refine (List.mem_or_eq_of_mem_set hmem).imp_right ?_
      rintro rfl
      exact trivial
    rename_i rows hactivate
    refine (List.mem_or_eq_of_mem_set hmem).imp_right ?_
    rintro rfl a ha
    cases ha
    obtain ⟨incumbent, hlast⟩ := exists_incumbent hgate
    by_cases hin : s.isInForce command.version = true
    · exact .inl (if_pos hin)
    · refine .inr ⟨incumbent, (ReadAt.last hlast).mono hext.succession, ?_⟩
      obtain ⟨hlast', -⟩ | ⟨hnew, -⟩ := h.succeeds.activate hactivate
      · exact absurd ((isInForce_iff h).mpr hlast') hin
      · exact (if_neg hin).trans (retired_of_draft h hlast hnew)

/-- Every step keeps the invariant, and the store only grows. -/
theorem Inv.step [DecidableEq ι] (h : Inv platform s) {label : Label ι}
    (hstep : step platform s label = some s') : Inv platform s' ∧ Extends s s' := by
  cases label with
  | createDraft policy createdBy env =>
    cases hstep
    exact h.createDraft
  | reload i =>
    cases hstep
    have hcall : CallSound platform s (.seeding none) := fun _ ha => nomatch ha
    exact h.start hcall
  | evaluate i request traceId env =>
    cases hstep
    exact h.evaluate
  | activatePolicy i command env =>
    cases hstep
    exact h.activatePolicy
  | resume t env =>
    simp only [Constitution.step, State.resume] at hstep
    split at hstep
    · cases hstep
    · cases hstep
    all_goals
      rename_i hcall
      cases hstep
      have hsound := h.calls _ (List.mem_of_getElem? hcall)
    · exact h.seed hsound
    · refine h.next ⟨hsound, fun row hrow => ?_⟩
      obtain ⟨hmem, hlast⟩ := h.succeeds.findActive_eq_some hrow
      exact ⟨ReadAt.last hlast, row, hmem, rfl, rfl⟩
    · exact h.install hsound
    · rename_i evaluation
      have hcall : CallSound platform { s with ledger := s.ledger ++ [evaluation.record] }
        (.finished (.decided evaluation.decision)) := trivial
      exact ⟨((h.record evaluation.record).next hcall).1, .of_eq rfl rfl⟩
    · exact h.passGate hsound
    · exact h.lookUp hsound
    · exact h.commitActivation hsound.1
  | reject t =>
    simp only [Constitution.step, State.reject] at hstep
    split at hstep
    · cases hstep
    · cases hstep
    · cases hstep
      exact h.throws

/-- The invariant of every reachable state. -/
theorem inv_of_run [DecidableEq ι] {labels : List (Label ι)}
    (hrun : Transition.run (step platform) .init labels = some s) : Inv platform s :=
  Transition.run_invariant (fun h hstep => (h.step hstep).1) Inv.init hrun

end Sentinel.Constitution
