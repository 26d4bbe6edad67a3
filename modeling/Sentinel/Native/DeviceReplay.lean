import Sentinel.ForStd.JsText
import Sentinel.ForStd.Table

/-! # The one anti-replay store

`DeviceReplayService` (`modules/shield/device-replay.service.ts`) over the
table `device_nonce_consumptions`: an identity is consumed once, and every later presentation is
classified against what it was consumed on.  `δ` is the digest of a replay key. -/

namespace Sentinel.DeviceReplay

structure ConsumptionRow (δ : Type) where
  organisationId : String
  replayIdentityDigest : δ
  statementFingerprint : String
  storedOutcomeRef : Option String
deriving DecidableEq

/-- The unique index of the table. -/
def ConsumptionRow.key {δ : Type} (row : ConsumptionRow δ) : String × δ :=
  (row.organisationId, row.replayIdentityDigest)

structure Consumptions (δ : Type) where
  rows : List (ConsumptionRow δ)
  rows_key : (rows.map ConsumptionRow.key).Nodup

/-- `DeviceNonceConsumption`, without the key and the fingerprint it repeats. -/
inductive Consumption
  | firstSeen
  | exactDuplicate (storedOutcomeRef : String)
  | reusedWithChangedSemantics
deriving DecidableEq

/-- `isConsistentDeviceNonceConsumption`, for keys and fingerprints that are not empty. -/
def Consumption.isConsistent : Consumption → Bool
  | .exactDuplicate storedOutcomeRef => !JsText.isBlank storedOutcomeRef
  | _ => true

/-- `classifyDeviceNonceConsumption`, with a null reference read as the empty string. -/
def classify {δ : Type} (statementFingerprint : String) :
    Option (ConsumptionRow δ) → Consumption
  | none => .firstSeen
  | some stored =>
    if stored.statementFingerprint = statementFingerprint then
      .exactDuplicate (stored.storedOutcomeRef.getD "")
    else .reusedWithChangedSemantics

namespace Consumptions

variable {δ : Type} [DecidableEq δ]

def empty : Consumptions δ := { rows := [], rows_key := List.nodup_nil }

def peek (consumptions : Consumptions δ) (organisationId : String) (digest : δ) :
    Option (ConsumptionRow δ) :=
  consumptions.rows.find? fun row => row.key = (organisationId, digest)

theorem key_ne_of_peek_eq_none {consumptions : Consumptions δ} {organisationId : String} {digest : δ}
    (h : consumptions.peek organisationId digest = none) :
    ∀ row ∈ consumptions.rows, row.key ≠ (organisationId, digest) := fun row hrow hkey =>
  List.find?_eq_none.mp h row hrow (decide_eq_true hkey)

/-- The insert of `consume`, for a key that is new. -/
def insert (consumptions : Consumptions δ) (row : ConsumptionRow δ)
    (h : consumptions.peek row.organisationId row.replayIdentityDigest = none) : Consumptions δ :=
  { rows := consumptions.rows ++ [row]
    rows_key := Table.nodup_map_concat consumptions.rows_key (key_ne_of_peek_eq_none h) }

/-- `consume`: the row of the first presentation stays. -/
def consume (consumptions : Consumptions δ) (row : ConsumptionRow δ) :
    Consumptions δ × Consumption :=
  match h : consumptions.peek row.organisationId row.replayIdentityDigest with
  | none => (consumptions.insert row h, .firstSeen)
  | some stored => (consumptions, classify row.statementFingerprint (some stored))

/-! ## What a consumption leaves -/

variable {consumptions : Consumptions δ} {row stored : ConsumptionRow δ} {organisationId : String}
  {digest : δ}

theorem peek_eq_some (h : consumptions.peek organisationId digest = some row) :
    row ∈ consumptions.rows ∧ row.key = (organisationId, digest) :=
  Table.of_find? h

theorem peek_of_mem (h : row ∈ consumptions.rows) :
    consumptions.peek row.organisationId row.replayIdentityDigest = some row := by
  cases hpeek : consumptions.peek row.organisationId row.replayIdentityDigest with
  | none => exact absurd rfl (key_ne_of_peek_eq_none hpeek row h)
  | some found =>
    obtain ⟨hmem, hkey⟩ := peek_eq_some hpeek
    rw [Table.eq_of_key consumptions.rows_key hmem h hkey]

theorem consume_of_none
    (h : consumptions.peek row.organisationId row.replayIdentityDigest = none) :
    consumptions.consume row = (consumptions.insert row h, .firstSeen) := by
  rw [consume]
  split
  · rfl
  · rename_i hsome
    rw [h] at hsome
    cases hsome

theorem consume_of_some
    (h : consumptions.peek row.organisationId row.replayIdentityDigest = some stored) :
    consumptions.consume row = (consumptions, classify row.statementFingerprint (some stored)) := by
  rw [consume]
  split
  · rename_i hnone
    rw [h] at hnone
    cases hnone
  · rename_i found hfound
    rw [h] at hfound
    rw [Option.some.inj hfound]

theorem consume_firstSeen
    (h : consumptions.peek row.organisationId row.replayIdentityDigest = none) :
    (consumptions.consume row).2 = .firstSeen := by
  rw [consume_of_none h]

theorem peek_of_consume_firstSeen (h : (consumptions.consume row).2 = .firstSeen) :
    consumptions.peek row.organisationId row.replayIdentityDigest = none := by
  cases hpeek : consumptions.peek row.organisationId row.replayIdentityDigest with
  | none => rfl
  | some stored =>
    rw [consume_of_some hpeek] at h
    simp only [classify] at h
    split at h <;> cases h

/-- The rows so far stay where they are. -/
theorem prefix_consume : consumptions.rows <+: (consumptions.consume row).1.rows := by
  cases hpeek : consumptions.peek row.organisationId row.replayIdentityDigest with
  | none =>
    rw [consume_of_none hpeek]
    exact List.prefix_append _ _
  | some stored =>
    have hrows : (consumptions.consume row).1.rows = consumptions.rows := by
      rw [consume_of_some hpeek]
    exact ⟨[], by rw [List.append_nil, hrows]⟩

/-- A consumption inserts its row, or none. -/
theorem mem_of_mem_consume {other : ConsumptionRow δ}
    (h : other ∈ (consumptions.consume row).1.rows) : other ∈ consumptions.rows ∨ other = row := by
  cases hpeek : consumptions.peek row.organisationId row.replayIdentityDigest with
  | none =>
    rw [consume_of_none hpeek] at h
    exact (List.mem_append.mp h).imp_right List.mem_singleton.mp
  | some stored =>
    rw [consume_of_some hpeek] at h
    exact .inl h

/-- No row is lost. -/
theorem mem_consume_of_mem {other : ConsumptionRow δ} (h : other ∈ consumptions.rows) :
    other ∈ (consumptions.consume row).1.rows := by
  cases hpeek : consumptions.peek row.organisationId row.replayIdentityDigest with
  | none =>
    rw [consume_of_none hpeek]
    exact List.mem_append_left _ h
  | some stored =>
    rw [consume_of_some hpeek]
    exact h

/-- An identity that is new is stored with its row. -/
theorem mem_consume_self
    (h : consumptions.peek row.organisationId row.replayIdentityDigest = none) :
    row ∈ (consumptions.consume row).1.rows := by
  rw [consume_of_none h]
  exact List.mem_append_right _ (List.mem_singleton.mpr rfl)

/-- What was stored stays, and the consumed identity is stored. -/
theorem peek_consume (organisationId : String) (digest : δ) :
    (consumptions.consume row).1.peek organisationId digest =
      (consumptions.peek organisationId digest).or
        (if row.key = (organisationId, digest) then some row else none) := by
  cases hpeek : consumptions.peek row.organisationId row.replayIdentityDigest with
  | none =>
    rw [consume_of_none hpeek]
    show (consumptions.rows ++ [row]).find? _ = _
    rw [List.find?_append, List.find?_singleton]
    by_cases hkey : row.key = (organisationId, digest)
    · rw [if_pos hkey, if_pos (decide_eq_true hkey)]
      rfl
    · rw [if_neg hkey, if_neg (by simpa using hkey)]
      rfl
  | some stored =>
    rw [consume_of_some hpeek]
    by_cases hkey : row.key = (organisationId, digest)
    · rw [if_pos hkey]
      cases hkey
      rw [hpeek]
      rfl
    · rw [if_neg hkey, Option.or_none]

theorem peek_consume_of_ne (hne : row.key ≠ (organisationId, digest)) :
    (consumptions.consume row).1.peek organisationId digest =
      consumptions.peek organisationId digest := by
  rw [peek_consume, if_neg hne, Option.or_none]

theorem peek_consume_of_some (h : consumptions.peek organisationId digest = some stored) :
    (consumptions.consume row).1.peek organisationId digest = some stored := by
  rw [peek_consume, h, Option.some_or]

end Consumptions

end Sentinel.DeviceReplay
