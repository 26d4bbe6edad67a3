import Mathlib.Data.String.Basic
import Sentinel.Native.DeviceRegistry

/-! # The standing of a device's attestation

The two reads, the newest observation and the newest that is not an outage, answer what a walk of
the whole history from the newest observation on would. -/

namespace Sentinel.DeviceRegistry

open DeviceTrust (AttestationStanding attestationStandingPermitsTrusted)

/-! ## The newest observation -/

/-- The order of the reads: by the instant, and by the id within it. -/
def Older (a b : AttestationObservationRow) : Prop :=
  a.evaluatedAt < b.evaluatedAt ∨ (a.evaluatedAt = b.evaluatedAt ∧ a.id < b.id)

instance (a b : AttestationObservationRow) : Decidable (Older a b) :=
  inferInstanceAs (Decidable (_ ∨ _))

variable {a b c row : AttestationObservationRow} {history : List AttestationObservationRow}

theorem Older.irrefl (a : AttestationObservationRow) : ¬ Older a a := by
  rintro (h | ⟨-, h⟩)
  · omega
  · exact lt_irrefl _ h

/-- What is no newer than something is no newer than what is newer than that. -/
theorem not_older_trans (hba : ¬ Older a b) (hcb : ¬ Older b c) : ¬ Older a c := by
  simp only [Older, not_or, not_and, not_lt] at hba hcb ⊢
  refine ⟨by omega, fun hac => ?_⟩
  have hab : a.evaluatedAt = b.evaluatedAt := by omega
  exact le_trans (hcb.2 (by omega)) (hba.2 hab)

theorem older_asymm (hab : Older a b) : ¬ Older b a := by
  simp only [Older] at hab ⊢
  rintro (h | ⟨hsame, h⟩)
  · omega
  · obtain hlt | ⟨-, hid⟩ := hab
    · omega
    · exact lt_asymm h hid

/-- Neither of two different rows is older: they have one id. -/
theorem id_eq_of_not_older (hab : ¬ Older a b) (hba : ¬ Older b a) : a.id = b.id := by
  simp only [Older, not_or, not_and, not_lt] at hab hba
  have hsame : a.evaluatedAt = b.evaluatedAt := by omega
  exact le_antisymm (hba.2 hsame.symm) (hab.2 hsame)

theorem newer_eq (a b : AttestationObservationRow) :
    Db.newer a b = if Older a b then b else a := rfl

theorem foldl_newer (row : AttestationObservationRow) (rows : List AttestationObservationRow) :
    rows.foldl Db.newer row ∈ row :: rows ∧
      ∀ other ∈ row :: rows, ¬ Older (rows.foldl Db.newer row) other := by
  induction rows generalizing row with
  | nil =>
    refine ⟨List.mem_singleton_self row, fun other hother => ?_⟩
    rw [List.mem_singleton.mp hother]
    exact Older.irrefl row
  | cons next rows ih =>
    rw [List.foldl_cons, newer_eq]
    obtain ⟨hmem, hnewest⟩ := ih (if Older row next then next else row)
    -- whichever of the two goes on, neither is newer than what comes out
    have hboth : ∀ other ∈ [row, next], ¬ Older (if Older row next then next else row) other := by
      intro other hother
      split
      · rename_i holder
        simp only [List.mem_cons, List.not_mem_nil, or_false] at hother
        obtain rfl | rfl := hother
        · exact older_asymm holder
        · exact Older.irrefl _
      · rename_i hnot
        simp only [List.mem_cons, List.not_mem_nil, or_false] at hother
        obtain rfl | rfl := hother
        · exact Older.irrefl _
        · exact hnot
    constructor
    · obtain heq | hrest := List.mem_cons.mp hmem
      · rw [heq]
        split <;> simp
      · exact List.mem_cons_of_mem _ (List.mem_cons_of_mem _ hrest)
    · intro other hother
      have hstart := hnewest _ List.mem_cons_self
      simp only [List.mem_cons] at hother
      obtain rfl | rfl | hrest := hother
      · exact not_older_trans hstart (hboth _ (by simp))
      · exact not_older_trans hstart (hboth _ (by simp))
      · exact hnewest _ (List.mem_cons_of_mem _ hrest)

theorem newest_eq_none_iff : Db.newest history = none ↔ history = [] := by
  cases history with
  | nil => exact ⟨fun _ => rfl, fun _ => rfl⟩
  | cons row rows => exact ⟨(fun h => nomatch h), fun h => nomatch h⟩

/-- By the primary key, the newest observation is the one that no other is newer than. -/
theorem newest_eq_some_iff (hids : (history.map (·.id)).Nodup) :
    Db.newest history = some row ↔ row ∈ history ∧ ∀ other ∈ history, ¬ Older row other := by
  cases history with
  | nil => exact ⟨(fun h => nomatch h), fun h => nomatch h.1⟩
  | cons first rows =>
    obtain ⟨hmem, hnewest⟩ := foldl_newer first rows
    constructor
    · intro h
      cases h
      exact ⟨hmem, hnewest⟩
    · rintro ⟨hrow, hrowNewest⟩
      have hid := id_eq_of_not_older (hnewest row hrow) (hrowNewest _ hmem)
      rw [Db.newest, Table.eq_of_key hids hmem hrow hid]

/-! ## The standing by its two reads -/

/-- The observations that are evidence. -/
def decisive (history : List AttestationObservationRow) : List AttestationObservationRow :=
  history.filter fun row => row.outcome ≠ .unavailable

theorem mem_decisive : row ∈ decisive history ↔ row ∈ history ∧ row.outcome ≠ .unavailable := by
  rw [decisive, List.mem_filter, decide_eq_true_eq]

theorem decisive_nodup (hids : (history.map (·.id)).Nodup) :
    ((decisive history).map (·.id)).Nodup :=
  hids.sublist (List.filter_sublist.map _)

def standingOf (history : List AttestationObservationRow) (now : Int) : AttestationStanding :=
  resolveAttestationStanding (Db.newest history) (Db.newest (decisive history)) now

/-- The observations of a device. -/
def historyOf (rows : List AttestationObservationRow) (organisationId deviceId : String) :
    List AttestationObservationRow :=
  rows.filter fun row => row.organisationId = organisationId ∧ row.deviceId = some deviceId

theorem effectiveAttestationStanding_eq {rows : List AttestationObservationRow}
    {organisationId deviceId : String} {now : Int} :
    effectiveAttestationStanding rows organisationId deviceId now =
      standingOf (historyOf rows organisationId deviceId) now := by
  have hdecisive : decisive (historyOf rows organisationId deviceId) =
      rows.filter fun row => row.organisationId = organisationId ∧
        row.deviceId = some deviceId ∧ row.outcome ≠ .unavailable := by
    rw [decisive, historyOf, List.filter_filter]
    refine List.filter_congr fun row _ => ?_
    simp only [Bool.decide_and]
    ac_rfl
  rw [standingOf, hdecisive]
  rfl

/-- A verification through an outage: good for the grace, and expired after it. -/
def aged (now verifiedAt : Int) : AttestationStanding :=
  if deviceAttestationUnavailableGraceMs < now - verifiedAt then .expired else .lastKnownGood

/-- What the decisive observation says, under an outage or not. -/
def weigh (now : Int) (outage : Bool) (row : AttestationObservationRow) : AttestationStanding :=
  if row.outcome = .verified then if outage then aged now row.evaluatedAt else .current
  else .negative

/-- The standing in closed form. -/
theorem standingOf_eq (hids : (history.map (·.id)).Nodup) (now : Int) :
    standingOf history now =
      match Db.newest history with
      | none => .ineligible
      | some latest =>
        if now < latest.evaluatedAt then .inconsistent
        else (Db.newest (decisive history)).elim .ineligible
          (weigh now (latest.outcome = .unavailable)) := by
  rw [standingOf, resolveAttestationStanding]
  cases hlatest : Db.newest history with
  | none => rfl
  | some latest =>
    obtain ⟨-, hnewest⟩ := (newest_eq_some_iff hids).mp hlatest
    by_cases hfuture : now < latest.evaluatedAt
    · simp [selectAttestationEvidence, hfuture]
    cases hdecisive : Db.newest (decisive history) with
    | none =>
      simp only [selectAttestationEvidence, hfuture, Option.any_none, Bool.false_eq_true, or_self, if_false]
      rfl
    | some row =>
      obtain ⟨hmem, -⟩ := (newest_eq_some_iff (decisive_nodup hids)).mp hdecisive
      obtain ⟨hrow, hevidence⟩ := mem_decisive.mp hmem
      -- the decisive observation is no newer than the latest, so it is not in the future either
      have horder : row.evaluatedAt ≤ latest.evaluatedAt := by
        by_contra hlater
        exact hnewest row hrow (.inl (by omega))
      have hpast : ¬ now < row.evaluatedAt := by omega
      simp only [selectAttestationEvidence, hfuture, hpast, Option.any_some, decide_false, Bool.false_eq_true, or_self,
        if_false, show ¬ latest.evaluatedAt < row.evaluatedAt by omega, Option.elim_some, weigh]
      cases houtcome : row.outcome with
      | unavailable => exact absurd houtcome hevidence
      | negative | invalid | revoked => rfl
      | verified =>
        by_cases houtage : latest.outcome = .unavailable
        · simp only [houtage, ne_eq, not_true_eq_false, if_false, if_true, decide_true,
            evaluateAttestationStanding, aged, show ¬ now - row.evaluatedAt < 0 by omega]
          rfl
        · simp only [houtage, ne_eq, not_true_eq_false, if_false, if_true, decide_false]
          rfl

/-! ## The walk -/

/-- The history from its newest observation on, as far as the first that is evidence; `outage` when
    the walk has passed an outage. -/
def walk (now : Int) (outage : Bool) : List AttestationObservationRow → AttestationStanding
  | [] => .ineligible
  | row :: rows =>
    if now < row.evaluatedAt then .inconsistent
    else
      match row.outcome with
      | .unavailable => walk now true rows
      | _ => weigh now outage row

def NewestFirst (history : List AttestationObservationRow) : Prop :=
  history.Pairwise fun a b => ¬ Older a b

/-- Whether a newest-first history begins with an outage. -/
def beginsWithOutage (history : List AttestationObservationRow) : Bool :=
  history.head?.any fun row => row.outcome = .unavailable

theorem walk_eq {now : Int} {outage : Bool} (hpast : ∀ row ∈ history, row.evaluatedAt ≤ now) :
    walk now outage history = (history.find? fun row => row.outcome ≠ .unavailable).elim .ineligible
      (weigh now (outage || beginsWithOutage history)) := by
  induction history generalizing outage with
  | nil => rfl
  | cons row rows ih =>
    have hnow : ¬ now < row.evaluatedAt := Int.not_lt.mpr (hpast row List.mem_cons_self)
    have hrows : ∀ row ∈ rows, row.evaluatedAt ≤ now := fun row hrow =>
      hpast row (List.mem_cons_of_mem _ hrow)
    have hrest := fun outage => @ih outage hrows
    rw [walk, if_neg hnow, beginsWithOutage]
    cases houtcome : row.outcome with
    | unavailable => simp [hrest, houtcome]
    | verified | negative | invalid | revoked => simp [houtcome]

theorem newest_of_newestFirst (hids : (history.map (·.id)).Nodup)
    {order : List AttestationObservationRow} (hperm : order.Perm history)
    (hsorted : NewestFirst order) : Db.newest history = order.head? := by
  cases order with
  | nil => rw [List.nil_perm.mp hperm]; rfl
  | cons latest rest =>
    refine (newest_eq_some_iff hids).mpr ⟨hperm.mem_iff.mp List.mem_cons_self, fun other hother => ?_⟩
    obtain rfl | hrest := List.mem_cons.mp (hperm.mem_iff.mpr hother)
    · exact Older.irrefl _
    · exact (List.pairwise_cons.mp hsorted).1 other hrest

theorem newest_decisive_of_newestFirst (hids : (history.map (·.id)).Nodup)
    {order : List AttestationObservationRow} (hperm : order.Perm history)
    (hsorted : NewestFirst order) :
    Db.newest (decisive history) = order.find? fun row => row.outcome ≠ .unavailable := by
  rw [← List.head?_filter]
  exact newest_of_newestFirst (decisive_nodup hids) (hperm.filter _) (hsorted.filter _)

/-- The two reads answer what the walk does. -/
theorem standingOf_walk (hids : (history.map (·.id)).Nodup) (now : Int)
    {order : List AttestationObservationRow} (hperm : order.Perm history)
    (hsorted : NewestFirst order) : standingOf history now = walk now false order := by
  rw [standingOf_eq hids, newest_of_newestFirst hids hperm hsorted,
    newest_decisive_of_newestFirst hids hperm hsorted]
  cases order with
  | nil => rfl
  | cons latest rest =>
    by_cases hfuture : now < latest.evaluatedAt
    · simp [walk, hfuture]
    · have hpast : ∀ row ∈ latest :: rest, row.evaluatedAt ≤ now := by
        intro row hrow
        obtain rfl | hrest := List.mem_cons.mp hrow
        · omega
        · have hnot := (List.pairwise_cons.mp hsorted).1 row hrest
          simp only [Older, not_or] at hnot
          omega
      rw [walk_eq hpast, List.head?_cons]
      simp only [hfuture, if_false, Bool.false_or, beginsWithOutage, List.head?_cons,
        Option.any_some]

/-! ## An outage more -/

/-- What a standing becomes with one outage more on record. -/
def withOutage (history : List AttestationObservationRow) (outage : AttestationObservationRow)
    (now : Int) : AttestationStanding :=
  if now < outage.evaluatedAt then .inconsistent
  else
    match standingOf history now, Db.newest (decisive history) with
    | .current, some verified =>
      if Older verified outage then aged now verified.evaluatedAt else .current
    | standing, _ => standing

section

variable {history' : List AttestationObservationRow} {outage : AttestationObservationRow}
  {now : Int} (hids : (history.map (·.id)).Nodup) (hids' : (history'.map (·.id)).Nodup)
  (hmem : ∀ row, row ∈ history' ↔ row = outage ∨ row ∈ history)

include hids hids' hmem

theorem newest_decisive_insert (houtage : outage.outcome = .unavailable) :
    Db.newest (decisive history') = Db.newest (decisive history) := by
  have hsame (row : AttestationObservationRow) : row ∈ decisive history' ↔ row ∈ decisive history := by
    rw [mem_decisive, mem_decisive, hmem]
    refine and_congr_left fun hevidence => or_iff_right ?_
    rintro rfl
    exact hevidence houtage
  refine Option.ext fun row => ?_
  rw [newest_eq_some_iff (decisive_nodup hids'), newest_eq_some_iff (decisive_nodup hids), hsame]
  simp only [hsame]

theorem newest_insert :
    Db.newest history' = some ((Db.newest history).elim outage fun latest =>
      if Older latest outage then outage else latest) := by
  refine (newest_eq_some_iff hids').mpr ?_
  cases hlatest : Db.newest history with
  | none =>
    have hempty := newest_eq_none_iff.mp hlatest
    subst hempty
    refine ⟨(hmem outage).mpr (.inl rfl), fun other hother => ?_⟩
    obtain rfl := ((hmem other).mp hother).resolve_right List.not_mem_nil
    exact Older.irrefl _
  | some latest =>
    obtain ⟨hlatestMem, hnewest⟩ := (newest_eq_some_iff hids).mp hlatest
    simp only [Option.elim_some]
    split
    · rename_i holder
      refine ⟨(hmem outage).mpr (.inl rfl), fun other hother => ?_⟩
      obtain rfl | hold := (hmem other).mp hother
      · exact Older.irrefl _
      · exact not_older_trans (older_asymm holder) (hnewest other hold)
    · rename_i hnot
      refine ⟨(hmem latest).mpr (.inr hlatestMem), fun other hother => ?_⟩
      obtain rfl | hold := (hmem other).mp hother
      · exact hnot
      · exact hnewest other hold

theorem standingOf_withOutage (houtage : outage.outcome = .unavailable) :
    standingOf history' now = withOutage history outage now := by
  rw [standingOf_eq hids', newest_insert hids hids' hmem,
    newest_decisive_insert hids hids' hmem houtage, withOutage, standingOf_eq hids]
  cases hlatest : Db.newest history with
  | none =>
    -- nothing has been observed, so nothing is evidence
    obtain rfl := newest_eq_none_iff.mp hlatest
    rfl
  | some latest =>
    obtain ⟨hlatestMem, hnewest⟩ := (newest_eq_some_iff hids).mp hlatest
    simp only [Option.elim_some]
    by_cases hdated : now < outage.evaluatedAt
    · -- an outage from the future is the latest, or the latest is from the future too
      have hlast : now < (if Older latest outage then outage else latest).evaluatedAt := by
        split
        · exact hdated
        · rename_i hnot
          simp only [Older, not_or] at hnot
          omega
      simp only [hdated, hlast, if_true]
    by_cases hfuture : now < latest.evaluatedAt
    · have hnot : ¬ Older latest outage := by
        simp only [Older]
        omega
      simp only [hdated, hnot, hfuture, if_true, if_false]
    have hlast : ¬ now < (if Older latest outage then outage else latest).evaluatedAt := by
      split <;> assumption
    simp only [hdated, hlast, hfuture, if_false]
    cases hdecisive : Db.newest (decisive history) with
    | none => rfl
    | some row =>
      obtain ⟨hmemRow, hnewestRow⟩ := (newest_eq_some_iff (decisive_nodup hids)).mp hdecisive
      simp only [Option.elim_some, weigh]
      by_cases hgood : row.outcome = .verified
      · by_cases hout : latest.outcome = .unavailable
        · have hlastOut : (if Older latest outage then outage else latest).outcome =
              .unavailable := by
            split <;> assumption
          simp only [hgood, hout, hlastOut, if_true, decide_true, aged]
          split <;> rfl
        · -- the latest is evidence, so it is the decisive observation
          have hevidence := mem_decisive.mpr ⟨hlatestMem, hout⟩
          have hid := id_eq_of_not_older (hnewest row (mem_decisive.mp hmemRow).1)
            (hnewestRow latest hevidence)
          obtain rfl := Table.eq_of_key hids hlatestMem (mem_decisive.mp hmemRow).1 hid
          by_cases holder : Older latest outage
          · simp [hgood, holder, houtage]
          · simp [hgood, holder]
      · simp only [hgood, if_false]

end

/-- Where no verification is newer than the negative evidence, the standing permits no trust. -/
theorem negative_stays {now : Int} (hids : (history.map (·.id)).Nodup)
    (hrow : row ∈ history) (hnegative : row.outcome ∈ deviceNegativeAttestationOutcomes)
    (hverified : ∀ other ∈ history, other.outcome = .verified → Older other row) :
    attestationStandingPermitsTrusted (standingOf history now) = false := by
  have hevidence : row ∈ decisive history := by
    refine mem_decisive.mpr ⟨hrow, fun hunavailable => ?_⟩
    rw [hunavailable] at hnegative
    revert hnegative
    decide
  rw [standingOf_eq hids]
  cases Db.newest history with
  | none => rfl
  | some latest =>
    by_cases hfuture : now < latest.evaluatedAt
    · simp only [hfuture, if_true]
      rfl
    simp only [hfuture, if_false]
    cases hdecisive : Db.newest (decisive history) with
    | none => rfl
    | some newest =>
      obtain ⟨hmem, hnewest⟩ := (newest_eq_some_iff (decisive_nodup hids)).mp hdecisive
      -- a verification would be newer than the negative evidence
      have hnot : newest.outcome ≠ .verified := fun hgood =>
        hnewest row hevidence (hverified newest (mem_decisive.mp hmem).1 hgood)
      simp only [Option.elim_some, weigh, hnot, if_false]
      rfl

/-! ## The register -/

theorem permits_of_withOutage {outage : AttestationObservationRow} {now : Int}
    (h : attestationStandingPermitsTrusted (withOutage history outage now) = true) :
    attestationStandingPermitsTrusted (standingOf history now) = true := by
  rw [withOutage] at h
  split at h
  · cases h
  · split at h
    · rename_i hcurrent hverified
      rw [hcurrent]
      rfl
    · exact h

/-- **The standing of a device's attestation.**  The two reads answer what the newest-first walk
does; an outage more changes nothing but a CURRENT standing; and after negative evidence that no
verification follows the standing permits no trust. -/
theorem attestation_standing {rows : List AttestationObservationRow}
    (organisationId deviceId : String) (now : Int) (hids : (rows.map (·.id)).Nodup) :
    (∀ order, order.Perm (historyOf rows organisationId deviceId) → NewestFirst order →
      effectiveAttestationStanding rows organisationId deviceId now = walk now false order) ∧
    (∀ rows' outage, (rows'.map (·.id)).Nodup → (∀ row, row ∈ rows' ↔ row = outage ∨ row ∈ rows) →
      outage.organisationId = organisationId → outage.deviceId = some deviceId →
      outage.outcome = .unavailable →
        effectiveAttestationStanding rows' organisationId deviceId now =
            withOutage (historyOf rows organisationId deviceId) outage now ∧
          (attestationStandingPermitsTrusted
              (effectiveAttestationStanding rows' organisationId deviceId now) = true →
            attestationStandingPermitsTrusted
              (effectiveAttestationStanding rows organisationId deviceId now) = true)) ∧
    ∀ row ∈ historyOf rows organisationId deviceId,
      row.outcome ∈ deviceNegativeAttestationOutcomes →
      (∀ other ∈ historyOf rows organisationId deviceId,
        other.outcome = .verified → Older other row) →
        attestationStandingPermitsTrusted
          (effectiveAttestationStanding rows organisationId deviceId now) = false := by
  have hhistory {rows : List AttestationObservationRow} (hids : (rows.map (·.id)).Nodup) :
      ((historyOf rows organisationId deviceId).map (·.id)).Nodup :=
    hids.sublist (List.filter_sublist.map _)
  simp only [effectiveAttestationStanding_eq]
  refine ⟨fun order hperm hsorted => standingOf_walk (hhistory hids) now hperm hsorted,
    fun rows' outage hids' hmem horganisation hdevice houtage => ?_,
    fun row hrow hnegative hverified => negative_stays (hhistory hids) hrow hnegative hverified⟩
  have hinserted : standingOf (historyOf rows' organisationId deviceId) now =
      withOutage (historyOf rows organisationId deviceId) outage now := by
    refine standingOf_withOutage (hhistory hids) (hhistory hids') (fun row => ?_) houtage
    simp only [historyOf, List.mem_filter, decide_eq_true_eq, hmem]
    constructor
    · rintro ⟨rfl | hrow, hof⟩
      · exact .inl rfl
      · exact .inr ⟨hrow, hof⟩
    · rintro (rfl | ⟨hrow, hof⟩)
      · exact ⟨.inl rfl, horganisation, hdevice⟩
      · exact ⟨.inr hrow, hof⟩
  refine ⟨hinserted, fun hpermits => ?_⟩
  rw [hinserted] at hpermits
  exact permits_of_withOutage hpermits

def observed (id : String) (outcome : AttestationOutcome) (evaluatedAt : Int) :
    AttestationObservationRow where
  id := id
  organisationId := "organisation"
  deviceId := some "device"
  outcome := outcome
  attestationReference := none
  evaluatedAt := evaluatedAt
  observedAt := evaluatedAt
  traceId := "trace"

theorem attestation_standing_negative :
    attestationStandingPermitsTrusted (effectiveAttestationStanding
      [observed "a" .verified 0, observed "b" .negative 10, observed "c" .unavailable 20]
        "organisation" "device" 30) = false := by
  have hids : ([observed "a" .verified 0, observed "b" .negative 10,
      observed "c" .unavailable 20].map (·.id)).Nodup := by decide
  exact (attestation_standing "organisation" "device" 30 hids).2.2 (observed "b" .negative 10)
    (by decide) (by decide) (by decide)

/-- Seven hours after a verification the standing is CURRENT, and with an outage on record since it
    is EXPIRED. -/
theorem outage_expires :
    effectiveAttestationStanding [observed "a" .verified 0] "organisation" "device" 25200000 =
        .current ∧
      effectiveAttestationStanding [observed "a" .verified 0, observed "b" .unavailable 3600000]
        "organisation" "device" 25200000 = .expired := by
  decide

end Sentinel.DeviceRegistry
