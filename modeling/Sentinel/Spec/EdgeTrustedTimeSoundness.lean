import Sentinel.Native.EdgeTrustedTimeAnchor
import Sentinel.Spec.EdgeTrustedTimeAgreement

/-! # The Edge's trusted time is sound

Whatever the candidate, the configuration and the reading are. -/

namespace Sentinel.EdgeTrustedTimeAnchor

open EdgeTrustedTime

variable {runtime : Runtime}

/-! ## The keyring -/

structure Keyring.Sound (runtime : Runtime) (keyring : Keyring) : Prop where
  size : 1 ≤ keyring.entries.length ∧ keyring.entries.length ≤ 2
  distinct : (keyring.entries.map VerificationKey.signerKeyId).Nodup
  one_active : (keyring.entries.filter fun entry => entry.role = .active).length = 1
  on_curve : ∀ entry ∈ keyring.entries, (importPublicKey runtime entry.publicKey).isSome = true

theorem length_mapM {α β : Type} {f : α → Option β} {l : List α} {m : List β}
    (h : l.mapM f = some m) : m.length = l.length := by
  induction l generalizing m with
  | nil =>
    obtain rfl : [] = m := Option.some.inj h
    rfl
  | cons x l ih =>
    rw [List.mapM_cons] at h
    obtain ⟨y, -, h⟩ := Option.bind_eq_some_iff.mp h
    obtain ⟨rest, hrest, h⟩ := Option.bind_eq_some_iff.mp h
    rw [← Option.some.inj h, List.length_cons, List.length_cons, ih hrest]

theorem parseKeys_length {json : JsonValue} {entries : List VerificationKey}
    (h : parseKeys json = some entries) : 1 ≤ entries.length ∧ entries.length ≤ 2 := by
  unfold parseKeys at h
  split at h
  next elements =>
    split at h
    next hlength =>
      rwa [length_mapM h]
    next => cases h
  next => cases h

variable {anchor : AnchorStatement} {reading : Reading} {now : String}

theorem checkKeys_sound {version : String} {entries : List VerificationKey} {keyring : Keyring}
    (hlength : 1 ≤ entries.length ∧ entries.length ≤ 2)
    (h : checkKeys runtime version entries = .ok keyring) : keyring.Sound runtime := by
  simp only [checkKeys] at h
  split at h
  next => cases h
  next hdistinct =>
    split at h
    next => cases h
    next hsome =>
      split at h
      next => cases h
      next hone =>
        split at h
        next => cases h
        next hcurve =>
          cases h
          refine ⟨hlength, not_not.mp hdistinct, ?_, fun entry hentry => ?_⟩
          · exact Nat.le_antisymm (not_lt.mp hone) (Nat.pos_of_ne_zero hsome)
          · by_contra hoff
            refine hcurve (List.any_eq_true.mpr ⟨entry, hentry, ?_⟩)
            simpa using hoff

/-- **The keyring.**  One key or two, of distinct ids, one of them active, all of them on the curve. -/
theorem loadEdgeTrustedTimeKeyring_sound {config : KeyringConfig} {keyring : Keyring}
    (h : loadEdgeTrustedTimeKeyring runtime config = .ok keyring) : keyring.Sound runtime := by
  unfold loadEdgeTrustedTimeKeyring at h
  split at h
  next =>
    split at h
    next => cases h
    next json _ =>
      split at h
      next => split at h <;> cases h
      next entries hentries => exact checkKeys_sound (parseKeys_length hentries) h
  next => cases h

theorem resolve_eq_some {keyring : Keyring} {signerKeyId : String} {key : VerificationKey}
    (h : keyring.resolve signerKeyId = some key) :
    key ∈ keyring.entries ∧ key.signerKeyId = signerKeyId := by
  have hfound := List.find?_some h
  exact ⟨List.mem_reverse.mp (List.mem_of_find?_eq_some h), of_decide_eq_true hfound⟩

/-! ## The derivation -/

/-- The derived instant before its fraction is cut off. -/
def derived (runtime : Runtime) (anchor : AnchorStatement) (monotonicMs : ℚ) : ℚ :=
  runtime.rounding.round
    (anchor.issuedMs + runtime.rounding.round (monotonicMs - anchor.edgeMonotonicAtAnchor))

theorem issuedMs_bounds (anchor : AnchorStatement) :
    |anchor.issuedMs| + 21600000 ≤ 2 ^ 53 ∧
      anchor.validUntilMs - anchor.issuedMs ≤ 21600000 := by
  have hissued := JsDate.parse_bounds (parse_serverIssuedAt anchor)
  have hparses := anchor.parses
  simp only [StatementFields.parses, Bool.and_eq_true] at hparses
  have hwindow := hparses.2
  rw [isInstantWindow, parse_serverIssuedAt, parse_serverValidUntil] at hwindow
  have hlife := (of_decide_eq_true hwindow).2
  refine ⟨?_, hlife⟩
  have habs : |anchor.issuedMs| ≤ 253402300800000 := abs_le.mpr ⟨by omega, by omega⟩
  omega

/-- **What a derived time rests on.**  The boot is the anchor's, and the reading is finite, not before
    the anchor's, and carries the signed instant to one before the end of the validity. -/
theorem trustedNow_eq_ok_some (h : trustedNow runtime (some anchor) reading = .ok (some now)) :
    anchor.edgeBootId = reading.bootId ∧ ∃ monotonicMs, reading.monotonicMs = .finite monotonicMs ∧
      (anchor.edgeMonotonicAtAnchor : ℚ) ≤ monotonicMs ∧
      derived runtime anchor monotonicMs < anchor.validUntilMs ∧
      now = JsText.toISOString (JsNumber.trunc (derived runtime anchor monotonicMs)) := by
  rw [trustedNow] at h
  split at h
  next => cases h
  next hvalid =>
    rw [not_not, classify] at hvalid
    split at hvalid
    next => cases hvalid
    next hboot =>
      rw [parse_serverIssuedAt, parse_serverValidUntil] at hvalid h
      split at hvalid
      next => cases hvalid
      next helapsed =>
        simp only at hvalid h
        split at hvalid
        next => cases hvalid
        next hexpired =>
          refine ⟨not_not.mp hboot, ?_⟩
          have hdouble := reading.isDouble
          -- `NaN` has come through every comparison, and has no date
          cases hreading : reading.monotonicMs with
          | nan => rw [elapsedMs, hreading] at h; cases h
          | negInfinity => rw [elapsedMs, hreading] at h; cases h
          | infinity => rw [elapsedMs, hreading] at h; cases h
          | finite monotonicMs =>
            rw [hreading] at hdouble
            rw [elapsedMs, hreading] at h helapsed hexpired
            simp only [JsNumber.sub, JsNumber.addInt, JsNumber.lt, JsNumber.ge, dateText,
              decide_eq_true_eq, not_lt, not_le, Int.cast_zero] at h helapsed hexpired
            refine ⟨monotonicMs, rfl, ?_, hexpired, ?_⟩
            · by_contra hbehind
              exact absurd (JsNumber.round_sub_neg runtime.rounding hdouble (not_le.mp hbehind))
                (not_lt.mpr helapsed)
            · split at h
              · exact (Option.some.inj (Except.ok.inj h)).symm
              · cases h

/-- The sum is rounded to a number between the whole milliseconds around it. -/
theorem derived_mem {monotonicMs : ℚ}
    (hmonotonic : (anchor.edgeMonotonicAtAnchor : ℚ) ≤ monotonicMs)
    (hvalid : derived runtime anchor monotonicMs < anchor.validUntilMs) :
    ((anchor.issuedMs + ⌊monotonicMs - anchor.edgeMonotonicAtAnchor⌋ : Int) : ℚ) ≤
        derived runtime anchor monotonicMs ∧
      derived runtime anchor monotonicMs ≤
        ((anchor.issuedMs + ⌈monotonicMs - anchor.edgeMonotonicAtAnchor⌉ : Int) : ℚ) := by
  obtain ⟨hissued, hlife⟩ := issuedMs_bounds anchor
  have hrange := abs_le.mp (show |anchor.issuedMs| ≤ 2 ^ 53 - 21600000 by omega)
  have helapsed : (0 : ℚ) ≤ monotonicMs - anchor.edgeMonotonicAtAnchor := by linarith
  have hfloor : 0 ≤ ⌊monotonicMs - anchor.edgeMonotonicAtAnchor⌋ := Int.floor_nonneg.mpr helapsed
  -- an interval longer than any validity would have brought the sum past the end
  have hshort : monotonicMs - anchor.edgeMonotonicAtAnchor < (21600000 : Int) := by
    by_contra hlong
    have hround := runtime.rounding.monotone (not_lt.mp hlong)
    rw [JsNumber.round_int _ (by norm_num)] at hround
    have hsum : ((anchor.issuedMs + 21600000 : Int) : ℚ) ≤
        anchor.issuedMs +
          runtime.rounding.round (monotonicMs - anchor.edgeMonotonicAtAnchor) := by
      push_cast at hround ⊢
      linarith
    have hderived := runtime.rounding.monotone hsum
    rw [JsNumber.round_int _ (abs_le.mpr ⟨by omega, by omega⟩)] at hderived
    have hpast : ((anchor.issuedMs + 21600000 : Int) : ℚ) < anchor.validUntilMs :=
      hderived.trans_lt hvalid
    have hpast' := Int.cast_lt.mp hpast
    omega
  have hceil : ⌈monotonicMs - anchor.edgeMonotonicAtAnchor⌉ ≤ 21600000 := Int.ceil_le.mpr hshort.le
  have hle := Int.floor_le_ceil (monotonicMs - anchor.edgeMonotonicAtAnchor)
  have hinner := JsNumber.round_mem runtime.rounding
    (m := ⌊monotonicMs - anchor.edgeMonotonicAtAnchor⌋)
    (n := ⌈monotonicMs - anchor.edgeMonotonicAtAnchor⌉)
    (abs_le.mpr ⟨by omega, by omega⟩) (abs_le.mpr ⟨by omega, by omega⟩)
    (Int.floor_le _) (Int.le_ceil _)
  exact JsNumber.round_mem runtime.rounding
    (abs_le.mpr ⟨by omega, by omega⟩) (abs_le.mpr ⟨by omega, by omega⟩)
    (by push_cast; linarith [hinner.1]) (by push_cast; linarith [hinner.2])

/-- The instant that a reading is carried to. -/
def derivedInstant (runtime : Runtime) (anchor : AnchorStatement) (monotonicMs : ℚ) : Int :=
  JsNumber.trunc (derived runtime anchor monotonicMs)

/-- A later reading is carried to a later instant, or the same one. -/
theorem derivedInstant_mono (runtime : Runtime) (anchor : AnchorStatement) :
    Monotone (derivedInstant runtime anchor) := by
  intro q q' h
  refine JsNumber.trunc_mono (runtime.rounding.monotone ?_)
  have hround := runtime.rounding.monotone
    (sub_le_sub_right h (anchor.edgeMonotonicAtAnchor : ℚ))
  linarith

structure DerivesAt (runtime : Runtime) (anchor : AnchorStatement) (reading : Reading) (now : String)
    (monotonicMs : ℚ) : Prop where
  boot : anchor.edgeBootId = reading.bootId
  finite : reading.monotonicMs = .finite monotonicMs
  not_before : (anchor.edgeMonotonicAtAnchor : ℚ) ≤ monotonicMs
  reads : JsDate.parse now = some (derivedInstant runtime anchor monotonicMs)
  issued_le : anchor.issuedMs ≤ derivedInstant runtime anchor monotonicMs
  floor_le : anchor.issuedMs + ⌊monotonicMs - anchor.edgeMonotonicAtAnchor⌋ ≤
    derivedInstant runtime anchor monotonicMs
  le_ceil : derivedInstant runtime anchor monotonicMs ≤
    anchor.issuedMs + ⌈monotonicMs - anchor.edgeMonotonicAtAnchor⌉
  le_validUntil : derivedInstant runtime anchor monotonicMs ≤ anchor.validUntilMs
  lt_validUntil : 0 < anchor.validUntilMs →
    derivedInstant runtime anchor monotonicMs < anchor.validUntilMs
  whole : ∀ ms : Int, monotonicMs = ms →
    derivedInstant runtime anchor monotonicMs =
        anchor.issuedMs + (ms - anchor.edgeMonotonicAtAnchor) ∧
      derivedInstant runtime anchor monotonicMs < anchor.validUntilMs

theorem derivesAt_of_trustedNow (h : trustedNow runtime (some anchor) reading = .ok (some now)) :
    ∃ monotonicMs, DerivesAt runtime anchor reading now monotonicMs := by
  obtain ⟨hboot, monotonicMs, hreading, hmonotonic, hvalid, rfl⟩ := trustedNow_eq_ok_some h
  obtain ⟨hlower, hupper⟩ := derived_mem hmonotonic hvalid
  have hfloor := JsNumber.trunc_mono hlower
  have hceil := JsNumber.trunc_mono hupper
  rw [JsNumber.trunc_intCast] at hfloor hceil
  have helapsed : 0 ≤ ⌊monotonicMs - anchor.edgeMonotonicAtAnchor⌋ :=
    Int.floor_nonneg.mpr (by linarith)
  have hissued : anchor.issuedMs ≤ derivedInstant runtime anchor monotonicMs := by
    rw [derivedInstant]
    omega
  have hend : derivedInstant runtime anchor monotonicMs ≤ anchor.validUntilMs := by
    have htrunc := JsNumber.trunc_mono hvalid.le
    rwa [JsNumber.trunc_intCast] at htrunc
  refine ⟨monotonicMs, hboot, hreading, hmonotonic, ?_, hissued, hfloor, hceil, hend, ?_, ?_⟩
  · exact parse_toISOString_of_window anchor ⟨hissued, hend⟩
  · exact fun hpositive => JsNumber.trunc_lt hpositive hvalid
  · rintro ms rfl
    -- between a whole number and itself nothing is cut off
    have hcast : ((ms : Int) : ℚ) - anchor.edgeMonotonicAtAnchor =
        ((ms - anchor.edgeMonotonicAtAnchor : Int) : ℚ) := by push_cast; rfl
    rw [hcast, Int.floor_intCast] at hfloor hlower
    rw [hcast, Int.ceil_intCast] at hceil
    have hexact : derivedInstant runtime anchor ms =
        anchor.issuedMs + (ms - anchor.edgeMonotonicAtAnchor) := le_antisymm hceil hfloor
    refine ⟨hexact, ?_⟩
    rw [hexact]
    exact Int.cast_lt.mp (hlower.trans_lt hvalid)

/-! ## Admission -/

/-- A signed anchor is central's, and this Edge's in this boot. -/
structure Vouched (runtime : Runtime) (keyring : Keyring) (identity : EdgeIdentity) (reading : Reading)
    (signed : SignedAnchor String) : Prop where
  signed_by_named_key : ∃ key ∈ keyring.entries, key.signerKeyId = signed.statement.signerKeyId ∧
    verifyAnchorSignature runtime key.publicKey
      (canonicalEdgeTrustedTimeAnchorStatement signed.statement) signed.signature = true
  edge : signed.statement.edgeId = identity.edgeId
  organisation : signed.statement.organisationId = identity.organisationId
  site : signed.statement.siteId ∈ identity.authorisedSiteIds
  boot : signed.statement.edgeBootId = reading.bootId

theorem admitVerified_eq_admitted {statement : AnchorStatement}
    (h : admitVerified runtime statement reading = .admitted anchor now) :
    statement = anchor ∧ trustedNow runtime (some anchor) reading = .ok (some now) := by
  unfold admitVerified at h
  split at h
  next => cases h
  next => cases h
  next => cases h
  next =>
    split at h
    next => cases h
    next => cases h
    next time htime =>
      obtain ⟨rfl, rfl⟩ := Admission.admitted.inj h
      exact ⟨rfl, htime⟩
  next => cases h

/-- **What is admitted** is vouched for, and the time that comes with it is derived of it. -/
theorem admit_eq_admitted {keyring : Except KeyringRefusal Keyring} {candidate : JsonValue}
    {identity : EdgeIdentity}
    (h : admitAnchor runtime keyring candidate identity reading = .admitted anchor now) :
    ∃ accepted signed, keyring = .ok accepted ∧ parseSigned candidate = some signed ∧
      signed.statement = anchor ∧ Vouched runtime accepted identity reading signed ∧
      trustedNow runtime (some anchor) reading = .ok (some now) := by
  unfold admitAnchor at h
  split at h
  next => cases h
  next =>
    split at h
    next => cases h
    next signed hparsed =>
      simp only at h
      split at h
      next => cases h
      next accepted =>
        split at h
        next => cases h
        next key hkey =>
          obtain ⟨hmem, hid⟩ := resolve_eq_some hkey
          split at h
          next => cases h
          next hverified =>
            split at h
            next => cases h
            next hbound =>
              split at h
              next => cases h
              next hboot =>
                split at h
                next => cases h
                next =>
                  obtain ⟨hstatement, hnow⟩ := admitVerified_eq_admitted h
                  refine ⟨accepted, signed, rfl, hparsed, hstatement, ?_, hnow⟩
                  simp only [not_or, not_not, Bool.not_eq_true', Bool.not_eq_false,
                    List.contains_iff_mem] at hbound hboot hverified
                  exact ⟨⟨key, hmem, hid, hverified⟩, hbound.1, hbound.2.1, hbound.2.2, hboot⟩

/-! ## Runs -/

/-- What an Edge is asked: to take a candidate, or for the time. -/
inductive Request
  | offer (candidate : JsonValue)
  | read

/-- A request, and what the clocks of the host show at it. -/
structure Moment where
  wallClock : JsNumber
  reading : Reading
  request : Request

variable (runtime) (keyring : Except KeyringRefusal Keyring) (identity : EdgeIdentity)

/-- A candidate that is not admitted. -/
def Moment.isRejected (moment : Moment) : Bool :=
  match moment.request with
  | .read => false
  | .offer candidate =>
    match admitAnchor runtime keyring candidate identity moment.reading with
    | .admitted _ _ => false
    | _ => true

/-- The anchor the Edge holds after a moment, and the times it has derived at it. -/
def step (anchor : Option AnchorStatement) (moment : Moment) :
    Option AnchorStatement × List (Reading × Except RangeError (Option String)) :=
  match moment.request with
  | .read => (anchor, [(moment.reading, trustedNow runtime anchor moment.reading)])
  | .offer candidate =>
    match admitAnchor runtime keyring candidate identity moment.reading with
    | .admitted statement now => (some statement, [(moment.reading, .ok (some now))])
    | _ => (anchor, [])

def derivedTimes : Option AnchorStatement → List Moment →
    List (Reading × Except RangeError (Option String))
  | _, [] => []
  | anchor, moment :: run =>
    let (anchor', times) := step runtime keyring identity anchor moment
    times ++ derivedTimes anchor' run

/-- A run without its rejected candidates, and without the wall clock. -/
def significant (run : List Moment) : List (Reading × Request) :=
  (run.filter fun moment => !moment.isRejected runtime keyring identity).map fun moment =>
    (moment.reading, moment.request)

theorem step_of_isRejected {moment : Moment}
    (h : moment.isRejected runtime keyring identity = true) (anchor : Option AnchorStatement) :
    step runtime keyring identity anchor moment = (anchor, []) := by
  unfold Moment.isRejected at h
  rw [step]
  split at h
  next => cases h
  next candidate _ =>
    split at h
    next => cases h
    next => rfl

/-- **Non-interference.**  What is derived in a run depends neither on the wall clock nor on the
    candidates that are rejected in it. -/
theorem derivedTimes_eq_of_significant (anchor : Option AnchorStatement) {run run' : List Moment}
    (h : significant runtime keyring identity run = significant runtime keyring identity run') :
    derivedTimes runtime keyring identity anchor run =
      derivedTimes runtime keyring identity anchor run' := by
  -- both are the run of the significant moments, at some fixed time of the wall clock
  have hkept : ∀ (run : List Moment) (anchor : Option AnchorStatement),
      derivedTimes runtime keyring identity anchor run =
        derivedTimes runtime keyring identity anchor
          ((significant runtime keyring identity run).map fun kept => ⟨.nan, kept.1, kept.2⟩) := by
    intro run
    induction run with
    | nil => intro anchor; rfl
    | cons moment run ih =>
      intro anchor
      cases hrejected : moment.isRejected runtime keyring identity with
      | true =>
        rw [derivedTimes, step_of_isRejected runtime keyring identity hrejected, significant,
          List.filter_cons_of_neg (by rw [hrejected]; decide), ← significant]
        exact ih anchor
      | false =>
        rw [significant, List.filter_cons_of_pos (by rw [hrejected]; decide), List.map_cons,
          List.map_cons, ← significant, derivedTimes, derivedTimes]
        exact congrArg _ (ih _)
  rw [hkept run, hkept run', h]

/-- An anchor that is held has been vouched for. -/
def Held (anchor : Option AnchorStatement) : Prop :=
  ∀ statement, anchor = some statement → ∃ accepted signed reading, keyring = .ok accepted ∧
    signed.statement = statement ∧ Vouched runtime accepted identity reading signed

theorem step_held {anchor : Option AnchorStatement} (hheld : Held runtime keyring identity anchor)
    (moment : Moment) : Held runtime keyring identity (step runtime keyring identity anchor moment).1 := by
  rw [step]
  split
  next => exact hheld
  next candidate _ =>
    split
    next statement now hadmitted =>
      intro statement' hsame
      cases hsame
      obtain ⟨accepted, signed, hkeyring, -, hstatement, hvouched, -⟩ := admit_eq_admitted hadmitted
      exact ⟨accepted, signed, moment.reading, hkeyring, hstatement, hvouched⟩
    next => exact hheld

/-- What is derived at a moment is derived of a vouched anchor. -/
theorem step_times {anchor : Option AnchorStatement} (hheld : Held runtime keyring identity anchor)
    {moment : Moment}
    (h : (reading, .ok (some now)) ∈ (step runtime keyring identity anchor moment).2) :
    ∃ statement, Held runtime keyring identity (some statement) ∧
      trustedNow runtime (some statement) reading = .ok (some now) := by
  have hafter := step_held runtime keyring identity hheld moment
  rw [step] at h hafter
  split at h
  next hrequest =>
    rw [List.mem_singleton, Prod.mk.injEq] at h
    obtain ⟨rfl, htime⟩ := h
    cases anchor with
    | none => cases htime
    | some statement => exact ⟨statement, hheld, htime.symm⟩
  next candidate hrequest =>
    split at h
    next statement now' hadmitted =>
      rw [List.mem_singleton, Prod.mk.injEq] at h
      obtain ⟨rfl, htime⟩ := h
      obtain rfl := Option.some.inj (Except.ok.inj htime)
      obtain ⟨-, -, -, -, -, -, hnow⟩ := admit_eq_admitted hadmitted
      refine ⟨statement, ?_, hnow⟩
      simpa only [hrequest, hadmitted] using hafter
    next => cases h

/-- **Runs.**  Every time that is derived in a run is derived of an anchor that has been vouched for. -/
theorem derivedTimes_sound (run : List Moment) : ∀ {anchor : Option AnchorStatement},
    Held runtime keyring identity anchor → ∀ {reading : Reading} {now : String},
      (reading, .ok (some now)) ∈ derivedTimes runtime keyring identity anchor run →
      ∃ statement monotonicMs, Held runtime keyring identity (some statement) ∧
        DerivesAt runtime statement reading now monotonicMs := by
  induction run with
  | nil =>
    intro anchor hheld reading now h
    cases h
  | cons moment run ih =>
    intro anchor hheld reading now h
    rw [derivedTimes] at h
    rcases List.mem_append.mp h with h | h
    · obtain ⟨statement, hstatement, htime⟩ := step_times runtime keyring identity hheld h
      obtain ⟨monotonicMs, hderives⟩ := derivesAt_of_trustedNow htime
      exact ⟨statement, monotonicMs, hstatement, hderives⟩
    · exact ih (step_held runtime keyring identity hheld moment) h

/-- **Edge trusted time is sound.**  An accepted keyring has one or two distinct ids, one of them
active.  What is admitted is vouched for.  A derived time is the signed instant carried forward by
the interval since the anchor, to the millisecond, within the validity, and no earlier for a later
reading.  Two runs that differ in the wall clock and in rejected candidates alone derive the same
times. -/
theorem edge_trusted_time_sound (runtime : Runtime) (config : KeyringConfig)
    (identity : EdgeIdentity) :
    let keyring := loadEdgeTrustedTimeKeyring runtime config
    (∀ accepted, keyring = .ok accepted → accepted.Sound runtime) ∧
    (∀ candidate reading anchor now,
      admitAnchor runtime keyring candidate identity reading = .admitted anchor now →
        ∃ accepted signed, keyring = .ok accepted ∧ parseSigned candidate = some signed ∧
          signed.statement = anchor ∧ Vouched runtime accepted identity reading signed ∧
          trustedNow runtime (some anchor) reading = .ok (some now)) ∧
    (∀ anchor reading now, trustedNow runtime (some anchor) reading = .ok (some now) →
      ∃ monotonicMs, DerivesAt runtime anchor reading now monotonicMs) ∧
    (∀ anchor reading reading' now now' monotonicMs monotonicMs',
      DerivesAt runtime anchor reading now monotonicMs →
      DerivesAt runtime anchor reading' now' monotonicMs' → monotonicMs ≤ monotonicMs' →
      ∃ ms ms', JsDate.parse now = some ms ∧ JsDate.parse now' = some ms' ∧ ms ≤ ms') ∧
    (∀ run run', significant runtime keyring identity run = significant runtime keyring identity run' →
      derivedTimes runtime keyring identity none run =
        derivedTimes runtime keyring identity none run') ∧
    (∀ run reading now,
      (reading, .ok (some now)) ∈ derivedTimes runtime keyring identity none run →
      ∃ statement monotonicMs, Held runtime keyring identity (some statement) ∧
        DerivesAt runtime statement reading now monotonicMs) := by
  intro keyring
  refine ⟨fun _ => loadEdgeTrustedTimeKeyring_sound, fun _ _ _ _ => admit_eq_admitted,
    fun _ _ _ => derivesAt_of_trustedNow, ?_,
    fun _ _ => derivedTimes_eq_of_significant runtime keyring identity none, ?_⟩
  · intro anchor reading reading' now now' monotonicMs monotonicMs' h h' hle
    exact ⟨_, _, h.reads, h'.reads, derivedInstant_mono runtime anchor hle⟩
  · have hnone : Held runtime keyring identity none := fun _ h => nomatch h
    exact fun run _ _ => derivedTimes_sound runtime keyring identity run hnone

/-- A runtime that calculates without rounding; it is asked for nothing else here. -/
def exactRuntime : Runtime where
  jsonParse _ := none
  createsPublicKey _ := false
  cryptoVerify _ _ _ := false
  rounding := JsNumber.Rounding.none

theorem half_mul (p : Nat) : (10001 / 2 : ℚ) * 2 ^ (p + 1) = ((10001 * 2 ^ p : Int) : ℚ) := by
  push_cast
  rw [pow_succ]
  ring

/-- Half a millisecond after the reading of `morningAnchor`. -/
def halfReading : Reading where
  monotonicMs := .finite (10001 / 2)
  isDouble := ⟨_, half_mul 1073⟩
  bootId := "boot-1"

/-- The text of a time has no fraction of a millisecond. -/
theorem half_is_cut :
    trustedNow exactRuntime (some morningAnchor) halfReading = .ok (some "2026-08-14T10:00:00.000Z") ∧
      JsDate.parse "2026-08-14T10:00:00.000Z" = some morningAnchor.issuedMs ∧
      (morningAnchor.issuedMs : ℚ) ≠
        morningAnchor.issuedMs + (10001 / 2 - morningAnchor.edgeMonotonicAtAnchor) := by
  refine ⟨by decide +kernel, parse_serverIssuedAt morningAnchor, ?_⟩
  have hanchor : (morningAnchor.edgeMonotonicAtAnchor : ℚ) = 5000 := by
    show ((5000 : Int) : ℚ) = 5000
    norm_num
  rw [hanchor]
  norm_num

end Sentinel.EdgeTrustedTimeAnchor
