import Sentinel.ForStd.Except
import Sentinel.Native.ConstitutionBody
import Sentinel.Spec.LedgerTamper

/-! # Which drafts can be loaded

`createDraft` checks the rules and hashes the object it was given.  Loading the row checks the shape
as well, checks the rules again and hashes what the shape keeps. -/

namespace Sentinel.ConstitutionBody

open Utf16 (ascii arrayIndex? wellFormed)
open JsObject (sortEntries fromEntries)
open DecisionLedger (Text Json JsValue protoKey nullJson textArray canonicalJson canonicalisedOwn
  canonicalisedElements stringifiedOwn stringifiedElements)
open Constitution (PolicyStatus Stamp LoadedPolicy)

/-! ## What the schema asks for, and what it keeps -/

variable (category : CategoryBody) (body : PolicyBody)

/-- No text is empty where `ActionCategorySchema` asks for a character. -/
def CategoryBody.NonEmpty : Prop :=
  category.description ≠ [] ∧ ∀ text ∈ category.approvalRoles, text ≠ []

/-- No text is empty where `PolicyBodySchema` asks for a character. -/
structure PolicyBody.NonEmpty (body : PolicyBody) : Prop where
  version : body.version ≠ []
  categories : ∀ entry ∈ body.categories, entry.2.NonEmpty
  actions : ∀ entry ∈ body.actions, entry.2 ≠ []
  roles : ∀ entry ∈ body.roles, ∀ text ∈ entry.2, text ≠ []
  prohibitedActions : ∀ text ∈ body.prohibitedActions, text ≠ []

/-- The entries of a record that keep their key. -/
def named {β : Type} (entries : List (Text × β)) : List (Text × β) :=
  entries.filter fun entry => entry.1 ≠ protoKey

/-- The category without what the schema does not name. -/
def CategoryBody.stripped : CategoryBody := { category with others := [] }

/-- The policy without what the schema does not name. -/
def PolicyBody.stripped : PolicyBody where
  version := body.version
  categories := named (body.categories.map (Prod.map id CategoryBody.stripped))
  actions := named body.actions
  roles := named body.roles
  prohibitedActions := body.prohibitedActions
  others := []

/-! ## Parsing -/

theorem parseAll_map_eq_some {α β γ : Type} {parse : α → Option β} {f : γ → α} {g : γ → β}
    {ok : γ → Prop} {l : List γ} (h : ∀ c ∈ l, ∀ b, parse (f c) = some b ↔ ok c ∧ b = g c)
    {bs : List β} :
    parseAll parse (l.map f) = some bs ↔ (∀ c ∈ l, ok c) ∧ bs = l.map g := by
  induction l generalizing bs with
  | nil => simp [parseAll, eq_comm]
  | cons c l ih =>
    rw [List.forall_mem_cons] at h
    simp only [List.map_cons, parseAll, bind, pure, Option.bind_eq_some_iff, Option.some.injEq,
      h.1, ih h.2, List.forall_mem_cons]
    constructor
    · rintro ⟨_, ⟨hok, rfl⟩, _, ⟨hall, rfl⟩, rfl⟩
      exact ⟨⟨hok, hall⟩, rfl⟩
    · rintro ⟨⟨hok, hall⟩, rfl⟩
      exact ⟨_, ⟨hok, rfl⟩, _, ⟨hall, rfl⟩, rfl⟩

theorem parseText_eq_some {text parsed : Text} :
    parseText (.string text) = some parsed ↔ text ≠ [] ∧ parsed = text := by
  rw [parseText]
  split
  next h => simp [h]
  next h => simp [h, eq_comm]

theorem stringifiedElements_strings (texts : List Text) :
    stringifiedElements (texts.map .string) = texts.map .string := by
  induction texts with
  | nil => rfl
  | cons text texts ih => rw [List.map_cons, stringifiedElements, ih]; rfl

theorem stringified_textArray (texts : List Text) :
    (textArray texts).stringified = some (.array (texts.map .string)) := by
  rw [textArray, JsValue.stringified, stringifiedElements_strings]

theorem parseTexts_eq_some {texts parsed : List Text} :
    parseTexts (.array (texts.map .string)) = some parsed ↔
      (∀ text ∈ texts, text ≠ []) ∧ parsed = texts := by
  rw [parseTexts, parseAll_map_eq_some fun _ _ _ => parseText_eq_some, List.map_id']

/-- The members of an object whose values are all written. -/
theorem stringifiedOwn_map {β : Type} {f : β → JsValue} {g : β → Json}
    (h : ∀ b, (f b).stringified = some (g b)) (entries : List (Text × β)) :
    stringifiedOwn (entries.map (Prod.map id f)) = entries.map (Prod.map id g) := by
  induction entries with
  | nil => rfl
  | cons entry entries ih =>
    rw [List.map_cons, List.map_cons, ← ih]
    simp only [Prod.map, id_eq, stringifiedOwn, h]

theorem parseRecord_eq_some {β γ : Type} {parse : Json → Option β} {f : γ → Json} {g : γ → β}
    {ok : γ → Prop} {entries : List (Text × γ)}
    (h : ∀ entry ∈ entries, ∀ b, parse (f entry.2) = some b ↔ ok entry.2 ∧ b = g entry.2)
    {parsed : List (Text × β)} :
    parseRecord parse (.object (entries.map (Prod.map id f))) = some parsed ↔
      (∀ entry ∈ entries, ok entry.2) ∧ parsed = named (entries.map (Prod.map id g)) := by
  have hall : ∀ bs : List (Text × β),
      parseAll (fun entry => (parse entry.2).map (entry.1, ·)) (entries.map (Prod.map id f)) = some bs ↔
        (∀ entry ∈ entries, ok entry.2) ∧ bs = entries.map (Prod.map id g) := by
    intro bs
    refine parseAll_map_eq_some fun entry hentry b => ?_
    simp only [Prod.map, id_eq, Option.map_eq_some_iff, h entry hentry]
    constructor
    · rintro ⟨_, ⟨hok, rfl⟩, rfl⟩
      exact ⟨hok, rfl⟩
    · rintro ⟨hok, rfl⟩
      exact ⟨_, ⟨hok, rfl⟩, rfl⟩
  simp only [parseRecord, bind, pure, Option.bind_eq_some_iff, Option.some.injEq, hall]
  constructor
  · rintro ⟨_, ⟨hok, rfl⟩, rfl⟩
    exact ⟨hok, rfl⟩
  · rintro ⟨hok, rfl⟩
    exact ⟨_, ⟨hok, rfl⟩, rfl⟩

theorem mem_of_mem_stringifiedOwn {own : List (Text × JsValue)} {name : Text} {json : Json}
    (h : (name, json) ∈ stringifiedOwn own) : name ∈ own.map Prod.fst := by
  induction own with
  | nil => cases h
  | cons property own ih =>
    rw [stringifiedOwn] at h
    split at h
    next =>
      rcases List.mem_cons.mp h with heq | hrest
      · cases heq
        exact List.mem_cons_self
      · exact List.mem_cons_of_mem _ (ih hrest)
    next => exact List.mem_cons_of_mem _ (ih h)

/-! ### Categories -/

def CategoryBody.json : Json := category.toJs.stringified.getD nullJson

theorem CategoryBody.stringified_toJs : category.toJs.stringified = some category.json := rfl

theorem find?_diversity_others {category : CategoryBody}
    (hnew : ∀ member ∈ category.others, member.1 ∉ categoryKeys) :
    member (stringifiedOwn category.others) "require_role_diversity" = none := by
  rw [member, Option.map_eq_none_iff, List.find?_eq_none]
  rintro ⟨name, json⟩ hmem
  obtain ⟨property, hproperty, rfl⟩ := List.mem_map.mp (mem_of_mem_stringifiedOwn hmem)
  have hother := hnew property hproperty
  simp only [categoryKeys, List.mem_cons, not_or] at hother
  simpa using hother.2.2.2.1

theorem parseApproval_name (approval : Constitution.ApprovalRequirement) :
    parseApproval (.string (key approval.name)) = some approval := by
  cases approval <;> decide

theorem parseCategory_json {category parsed : CategoryBody}
    (hnew : ∀ member ∈ category.others, member.1 ∉ categoryKeys) :
    parseCategory category.json = some parsed ↔ category.NonEmpty ∧ parsed = category.stripped := by
  obtain ⟨members, hjson, happroval, hdescription, hroles, hdiversity⟩ : ∃ members,
      category.json = .object members ∧
      member members "approval" = some (.string (key category.approval.name)) ∧
      member members "description" = some (.string category.description) ∧
      member members "approval_roles" = some (.array (category.approvalRoles.map .string)) ∧
      parseDiversity (member members "require_role_diversity") =
        some category.requireRoleDiversity := by
    have hnone := find?_diversity_others hnew
    cases hset : category.requireRoleDiversity with
    | none =>
      refine ⟨(key "approval", .string (key category.approval.name)) ::
        (key "description", .string category.description) ::
        (key "approval_roles", .array (category.approvalRoles.map .string)) ::
        stringifiedOwn category.others, ?_, rfl, rfl, rfl, ?_⟩
      · simp only [CategoryBody.json, CategoryBody.toJs, hset, Option.elim_none, List.cons_append,
          List.nil_append, JsValue.stringified, stringifiedOwn, stringified_textArray,
          Option.getD_some]
      · have hskip : member ((key "approval", .string (key category.approval.name)) ::
            (key "description", .string category.description) ::
            (key "approval_roles", .array (category.approvalRoles.map .string)) ::
            stringifiedOwn category.others) "require_role_diversity" = none := hnone
        rw [hskip]
        rfl
    | some value =>
      refine ⟨(key "approval", .string (key category.approval.name)) ::
        (key "description", .string category.description) ::
        (key "approval_roles", .array (category.approvalRoles.map .string)) ::
        (key "require_role_diversity", .literal (key (if value then "true" else "false"))) ::
        stringifiedOwn category.others, ?_, rfl, rfl, rfl, ?_⟩
      · simp only [CategoryBody.json, CategoryBody.toJs, hset, Option.elim_some, List.cons_append,
          List.nil_append, JsValue.stringified, stringifiedOwn, stringified_textArray,
          booleanValue, Option.getD_some]
      · show parseDiversity (some (.literal (key (if value then "true" else "false")))) = _
        cases value <;> decide
  rw [hjson, parseCategory, happroval, hdescription, hroles, hdiversity]
  simp only [bind, pure, Option.bind_some, parseApproval_name, Option.bind_eq_some_iff,
    parseText_eq_some, parseTexts_eq_some, Option.some.injEq]
  constructor
  · rintro ⟨_, ⟨hdescription, rfl⟩, _, ⟨hroles, rfl⟩, rfl⟩
    exact ⟨⟨hdescription, hroles⟩, rfl⟩
  · rintro ⟨⟨hdescription, hroles⟩, rfl⟩
    exact ⟨_, ⟨hdescription, rfl⟩, _, ⟨hroles, rfl⟩, rfl⟩

/-! ### Policies -/

/-- The members of a stored draft. -/
def PolicyBody.members : List (Text × Json) :=
  (key "version", .string body.version) ::
    (key "categories", .object (body.categories.map (Prod.map id CategoryBody.json))) ::
    (key "actions", .object (body.actions.map (Prod.map id .string))) ::
    (key "roles", .object (body.roles.map (Prod.map id fun texts => .array (texts.map .string)))) ::
    (key "prohibitedActions", .array (body.prohibitedActions.map .string)) ::
    stringifiedOwn body.others

theorem policyBody_eq : body.policyBody = .object body.members := by
  have hstrings := stringifiedOwn_map
    fun text => (rfl : (JsValue.string text).stringified = some (.string text))
  simp only [PolicyBody.policyBody, PolicyBody.toJs, PolicyBody.members, List.cons_append,
    List.nil_append, JsValue.stringified, stringifiedOwn, stringified_textArray, Option.getD_some,
    stringifiedOwn_map CategoryBody.stringified_toJs, stringifiedOwn_map stringified_textArray,
    hstrings]

/-- What the schema reads of a stored draft: all of it but what it strips, where no text is empty. -/
theorem parseBody_policyBody {body parsed : PolicyBody} (h : body.IsObject) :
    parseBody body.policyBody = some parsed ↔ body.NonEmpty ∧ parsed = body.stripped := by
  have hversion : member body.members "version" = some (.string body.version) := rfl
  have hcategories : member body.members "categories" =
      some (.object (body.categories.map (Prod.map id CategoryBody.json))) := rfl
  have hactions : member body.members "actions" =
      some (.object (body.actions.map (Prod.map id .string))) := rfl
  have hroles : member body.members "roles" =
      some (.object (body.roles.map (Prod.map id fun texts => .array (texts.map .string)))) := rfl
  have hprohibited : member body.members "prohibitedActions" =
      some (.array (body.prohibitedActions.map .string)) := rfl
  have hcategory : ∀ categories,
      parseRecord parseCategory (.object (body.categories.map (Prod.map id CategoryBody.json))) =
        some categories ↔ (∀ entry ∈ body.categories, entry.2.NonEmpty) ∧
          categories = named (body.categories.map (Prod.map id CategoryBody.stripped)) :=
    fun _ => parseRecord_eq_some fun entry hentry _ =>
      parseCategory_json (h.category_others_new entry hentry)
  have haction : ∀ actions,
      parseRecord parseText (.object (body.actions.map (Prod.map id .string))) = some actions ↔
        (∀ entry ∈ body.actions, entry.2 ≠ []) ∧ actions = named body.actions := by
    intro actions
    have hrecord := @parseRecord_eq_some _ _ parseText .string id (· ≠ []) body.actions
      (fun _ _ _ => parseText_eq_some) actions
    rwa [Prod.map_id, List.map_id] at hrecord
  have hrole : ∀ roles,
      parseRecord parseTexts (.object
        (body.roles.map (Prod.map id fun texts => .array (texts.map .string)))) = some roles ↔
        (∀ entry ∈ body.roles, ∀ text ∈ entry.2, text ≠ []) ∧ roles = named body.roles := by
    intro roles
    have hrecord := @parseRecord_eq_some _ _ parseTexts (fun texts => .array (texts.map .string)) id
      (fun texts => ∀ text ∈ texts, text ≠ []) body.roles (fun _ _ _ => parseTexts_eq_some) roles
    rwa [Prod.map_id, List.map_id] at hrecord
  rw [policyBody_eq, parseBody, hversion, hcategories, hactions, hroles, hprohibited]
  simp only [bind, pure, Option.bind_some, Option.bind_eq_some_iff, parseText_eq_some, hcategory,
    haction, hrole, parseTexts_eq_some, Option.some.injEq]
  constructor
  · rintro ⟨_, ⟨hversion, rfl⟩, _, ⟨hcategories, rfl⟩, _, ⟨hactions, rfl⟩, _, ⟨hroles, rfl⟩, _,
      ⟨hprohibited, rfl⟩, rfl⟩
    exact ⟨⟨hversion, hcategories, hactions, hroles, hprohibited⟩, rfl⟩
  · rintro ⟨hnonEmpty, rfl⟩
    exact ⟨_, ⟨hnonEmpty.version, rfl⟩, _, ⟨hnonEmpty.categories, rfl⟩, _, ⟨hnonEmpty.actions, rfl⟩,
      _, ⟨hnonEmpty.roles, rfl⟩, _, ⟨hnonEmpty.prohibitedActions, rfl⟩, rfl⟩

/-! ## Hashing -/

theorem canonicalisedOwn_append (own own' : List (Text × JsValue)) :
    canonicalisedOwn (own ++ own') = canonicalisedOwn own ++ canonicalisedOwn own' := by
  induction own with
  | nil => rfl
  | cons property own ih =>
    rw [List.cons_append, canonicalisedOwn, canonicalisedOwn, ih]
    split
    · split <;> rfl
    · rfl

theorem canonicalisedOwn_keys (own : List (Text × JsValue)) :
    ((canonicalisedOwn own).map Prod.fst).Sublist (own.map Prod.fst) := by
  induction own with
  | nil => exact List.Sublist.slnil
  | cons property own ih =>
    rw [canonicalisedOwn]
    split
    · split
      · exact ih.cons _
      · exact ih.cons_cons _
    · exact ih.cons _

/-- The canonical entries of a record: one for each entry that keeps its key. -/
theorem canonicalisedOwn_map {β : Type} {f : β → JsValue} {g : β → Json}
    (h : ∀ b, (f b).canonicalised = some (g b)) (entries : List (Text × β)) :
    canonicalisedOwn (entries.map (Prod.map id f)) = (named entries).map (Prod.map id g) := by
  induction entries with
  | nil => rfl
  | cons entry entries ih =>
    obtain ⟨name, b⟩ := entry
    rw [List.map_cons, Prod.map, canonicalisedOwn, h, ih]
    by_cases hname : name = protoKey
    · simp [named, hname]
    · simp [named, hname]

def objectForm (own : List (Text × JsValue)) : Json :=
  .object (fromEntries arrayIndex? (sortEntries (canonicalisedOwn own)))

/-- Two objects have one canonical form when their canonical entries are the same in some order. -/
theorem objectForm_eq_iff {own own' : List (Text × JsValue)} (hnodup : (own.map Prod.fst).Nodup) :
    objectForm own = objectForm own' ↔ (canonicalisedOwn own).Perm (canonicalisedOwn own') := by
  have hkeys := hnodup.sublist (canonicalisedOwn_keys own)
  have hlisted (entries : List (Text × Json)) :
      (fromEntries arrayIndex? (sortEntries entries)).Perm entries :=
    (JsObject.fromEntries_perm arrayIndex? _).trans (JsObject.sortEntries_perm entries)
  rw [objectForm, objectForm, JsonText.Json.object.injEq]
  constructor
  · intro h
    exact (hlisted _).symm.trans (h ▸ hlisted _)
  · intro h
    rw [JsObject.sortEntries_eq_of_perm hkeys h]

/-- Members that nothing is written of, beside entries that are all written. -/
theorem perm_append_iff {l m others : List (Text × Json)} (hnodup : (m.map Prod.fst).Nodup)
    (hkeys : l.map Prod.fst = m.map Prod.fst) :
    (l ++ others).Perm m ↔ l = m ∧ others = [] := by
  constructor
  · intro h
    -- as many entries on both sides
    have hlength := h.length_eq
    have hsame := congrArg List.length hkeys
    rw [List.length_append] at hlength
    rw [List.length_map, List.length_map] at hsame
    have hothers : others = [] := List.length_eq_zero_iff.mp (by omega)
    rw [hothers, List.append_nil] at h
    exact ⟨JsObject.eq_of_map_fst_eq hnodup h.subset (List.Subset.refl m) hkeys, hothers⟩
  · rintro ⟨rfl, rfl⟩
    rw [List.append_nil]

/-! ### Categories -/

/-- The canonical entries of what `ActionCategorySchema` names. -/
def CategoryBody.form : List (Text × Json) :=
  canonicalisedOwn
    [(key "approval", .string (key category.approval.name)),
      (key "description", .string category.description),
      (key "approval_roles", textArray category.approvalRoles),
      (key "require_role_diversity", category.requireRoleDiversity.elim .absent booleanValue)]

def CategoryBody.canonical : Json := category.toJs.canonicalised.getD nullJson

theorem CategoryBody.canonicalised_toJs :
    category.toJs.canonicalised = some category.canonical := rfl

theorem CategoryBody.canonical_stripped_iff {category : CategoryBody}
    (hothers : (category.others.map Prod.fst).Nodup)
    (hnew : ∀ member ∈ category.others, member.1 ∉ categoryKeys) :
    category.canonical = category.stripped.canonical ↔ canonicalisedOwn category.others = [] := by
  have hnodup : (([(key "approval", .string (key category.approval.name)),
      (key "description", .string category.description),
      (key "approval_roles", textArray category.approvalRoles),
      (key "require_role_diversity", category.requireRoleDiversity.elim .absent booleanValue)] ++
      category.others).map Prod.fst).Nodup := by
    rw [List.map_append, List.nodup_append]
    refine ⟨?_, hothers, ?_⟩
    · show categoryKeys.Nodup
      decide
    · rintro name hname name' hname' rfl
      obtain ⟨member, hmember, rfl⟩ := List.mem_map.mp hname'
      exact hnew member hmember hname
  have hform : (category.form.map Prod.fst).Nodup :=
    List.Nodup.sublist (canonicalisedOwn_keys _) (show categoryKeys.Nodup by decide)
  show objectForm _ = objectForm _ ↔ _
  rw [objectForm_eq_iff hnodup, canonicalisedOwn_append, canonicalisedOwn_append,
    show category.stripped.others = [] from rfl, canonicalisedOwn, List.append_nil]
  exact (perm_append_iff hform rfl).trans (and_iff_right rfl)

/-! ### Policies -/

/-- The schema strips nothing that the hash covers: what else the object has, and what else the
    objects of its categories have, leaves no trace in the canonical form. -/
structure PolicyBody.NothingStripped (body : PolicyBody) : Prop where
  others : canonicalisedOwn body.others = []
  categories : ∀ entry ∈ body.categories, entry.1 ≠ protoKey → canonicalisedOwn entry.2.others = []

/-- The properties that `PolicyBodySchema` names. -/
def PolicyBody.own : List (Text × JsValue) :=
  [(key "version", .string body.version),
    (key "categories", .object (body.categories.map (Prod.map id CategoryBody.toJs))),
    (key "actions", .object (body.actions.map (Prod.map id .string))),
    (key "roles", .object (body.roles.map (Prod.map id textArray))),
    (key "prohibitedActions", textArray body.prohibitedActions)]

theorem named_map {β γ : Type} (f : β → γ) (entries : List (Text × β)) :
    named (entries.map (Prod.map id f)) = (named entries).map (Prod.map id f) := by
  rw [named, named, List.filter_map]
  rfl

theorem named_named {β : Type} (entries : List (Text × β)) : named (named entries) = named entries := by
  rw [named, named, List.filter_filter]
  simp only [Bool.and_self]

theorem mem_named {β : Type} {entries : List (Text × β)} {entry : Text × β} :
    entry ∈ named entries ↔ entry ∈ entries ∧ entry.1 ≠ protoKey := by
  simp [named]

theorem categories_form (entries : List (Text × CategoryBody)) :
    canonicalisedOwn (entries.map (Prod.map id CategoryBody.toJs)) =
      (named entries).map (Prod.map id CategoryBody.canonical) :=
  canonicalisedOwn_map CategoryBody.canonicalised_toJs entries

theorem categories_form_eq_iff {body : PolicyBody} (h : body.IsObject) :
    objectForm (body.categories.map (Prod.map id CategoryBody.toJs)) =
        objectForm (body.stripped.categories.map (Prod.map id CategoryBody.toJs)) ↔
      ∀ entry ∈ body.categories, entry.1 ≠ protoKey → canonicalisedOwn entry.2.others = [] := by
  have hfst (f : CategoryBody → Json) (entries : List (Text × CategoryBody)) :
      (entries.map (Prod.map id f)).map Prod.fst = entries.map Prod.fst := by
    rw [List.map_map]
    rfl
  have hnodup : ((body.categories.map (Prod.map id CategoryBody.toJs)).map Prod.fst).Nodup := by
    rw [List.map_map]
    exact h.categories
  have hnamed : ((named body.categories).map Prod.fst).Nodup :=
    h.categories.sublist (List.filter_sublist.map Prod.fst)
  -- the stripped categories under the same keys
  have hstripped : canonicalisedOwn (body.stripped.categories.map (Prod.map id CategoryBody.toJs)) =
      (named body.categories).map
        (Prod.map id (CategoryBody.canonical ∘ CategoryBody.stripped)) := by
    rw [categories_form, PolicyBody.stripped, named_named, named_map, List.map_map]
    rfl
  rw [objectForm_eq_iff hnodup, categories_form, hstripped]
  have hlists : ((named body.categories).map (Prod.map id CategoryBody.canonical)).Perm
        ((named body.categories).map
          (Prod.map id (CategoryBody.canonical ∘ CategoryBody.stripped))) ↔
      (named body.categories).map (Prod.map id CategoryBody.canonical) =
        (named body.categories).map
          (Prod.map id (CategoryBody.canonical ∘ CategoryBody.stripped)) := by
    refine ⟨fun hperm => ?_, fun heq => heq ▸ List.Perm.refl _⟩
    refine JsObject.eq_of_map_fst_eq ?_ hperm.subset (List.Subset.refl _) ?_
    · rw [hfst]
      exact hnamed
    · rw [hfst, hfst]
  rw [hlists, JsObject.map_eq_map_iff hnamed (List.Subset.refl _) (List.Subset.refl _),
    and_iff_right rfl]
  constructor
  · intro hsame entry hentry hname
    exact (CategoryBody.canonical_stripped_iff (h.category_others entry hentry)
      (h.category_others_new entry hentry)).mp (hsame entry (mem_named.mpr ⟨hentry, hname⟩))
  · intro hnone entry hentry
    obtain ⟨hentry, hname⟩ := mem_named.mp hentry
    exact (CategoryBody.canonical_stripped_iff (h.category_others entry hentry)
      (h.category_others_new entry hentry)).mpr (hnone entry hentry hname)

/-- Entries under `__proto__` have no part in the canonical form. -/
theorem objectForm_named {β : Type} {f : β → JsValue} {g : β → Json}
    (h : ∀ b, (f b).canonicalised = some (g b)) (entries : List (Text × β)) :
    objectForm ((named entries).map (Prod.map id f)) = objectForm (entries.map (Prod.map id f)) := by
  rw [objectForm, objectForm, canonicalisedOwn_map h, canonicalisedOwn_map h, named_named]

theorem canonicalisedOwn_own : canonicalisedOwn body.own = [(key "version", .string body.version),
      (key "categories", objectForm (body.categories.map (Prod.map id CategoryBody.toJs))),
      (key "actions", objectForm (body.actions.map (Prod.map id .string))),
      (key "roles", objectForm (body.roles.map (Prod.map id textArray))),
      (key "prohibitedActions",
        .array (canonicalisedElements (body.prohibitedActions.map .string)))] := by
  simp only [PolicyBody.own, canonicalisedOwn, JsValue.canonicalised, textArray,
    show key "version" ≠ protoKey by decide, show key "categories" ≠ protoKey by decide,
    show key "actions" ≠ protoKey by decide, show key "roles" ≠ protoKey by decide,
    show key "prohibitedActions" ≠ protoKey by decide, if_false]
  rfl

theorem PolicyBody.IsObject.nodup {body : PolicyBody} (h : body.IsObject) :
    ((body.own ++ body.others).map Prod.fst).Nodup := by
  rw [List.map_append, List.nodup_append]
  refine ⟨?_, h.others, ?_⟩
  · show policyKeys.Nodup
    decide
  · rintro name hname name' hname' rfl
    obtain ⟨member, hmember, rfl⟩ := List.mem_map.mp hname'
    exact h.others_new member hmember hname

/-- One canonical form before and after the schema, exactly when it strips nothing. -/
theorem canonicalised_stripped_iff {body : PolicyBody} (h : body.IsObject) :
    body.toJs.canonicalised = body.stripped.toJs.canonicalised ↔ body.NothingStripped := by
  have hkeys : ((canonicalisedOwn body.stripped.own).map Prod.fst).Nodup :=
    List.Nodup.sublist (canonicalisedOwn_keys _) (show policyKeys.Nodup by decide)
  have hactions : objectForm (body.stripped.actions.map (Prod.map id .string)) =
      objectForm (body.actions.map (Prod.map id .string)) :=
    objectForm_named (fun text => (rfl : (JsValue.string text).canonicalised = _)) body.actions
  have hroles : objectForm (body.stripped.roles.map (Prod.map id textArray)) =
      objectForm (body.roles.map (Prod.map id textArray)) :=
    objectForm_named (fun texts => (rfl : (textArray texts).canonicalised = _)) body.roles
  show some (objectForm (body.own ++ body.others)) = some (objectForm (body.stripped.own ++ [])) ↔ _
  rw [Option.some.injEq, objectForm_eq_iff h.nodup, canonicalisedOwn_append, List.append_nil,
    perm_append_iff hkeys (by rw [canonicalisedOwn_own, canonicalisedOwn_own]; rfl),
    canonicalisedOwn_own, canonicalisedOwn_own, hactions, hroles]
  simp only [List.cons.injEq, Prod.mk.injEq, true_and, and_true, PolicyBody.stripped]
  constructor
  · rintro ⟨hcategories, hothers⟩
    exact ⟨hothers, (categories_form_eq_iff h).mp hcategories⟩
  · rintro ⟨hothers, hcategories⟩
    exact ⟨(categories_form_eq_iff h).mpr hcategories, hothers⟩

/-! ### What is hashed is JSON -/

theorem objectForm_valid {own : List (Text × JsValue)}
    (h : ∀ member ∈ canonicalisedOwn own, member.2.Valid) : (objectForm own).Valid := by
  rw [objectForm, JsonText.Json.Valid, JsonText.validMembers_iff]
  intro member hmember
  have hperm := (JsObject.fromEntries_perm arrayIndex? _).trans
    (JsObject.sortEntries_perm (canonicalisedOwn own))
  exact h member (hperm.mem_iff.mp hmember)

theorem record_valid {β : Type} {f : β → JsValue} {g : β → Json}
    (h : ∀ b, (f b).canonicalised = some (g b)) {entries : List (Text × β)}
    (hvalid : ∀ entry ∈ entries, (g entry.2).Valid) :
    (objectForm (entries.map (Prod.map id f))).Valid := by
  refine objectForm_valid fun member hmember => ?_
  rw [canonicalisedOwn_map h] at hmember
  obtain ⟨entry, hentry, rfl⟩ := List.mem_map.mp hmember
  exact hvalid entry (mem_named.mp hentry).1

theorem strings_valid (texts : List Text) :
    (JsonText.Json.array (canonicalisedElements (texts.map .string))).Valid := by
  rw [JsonText.Json.Valid, JsonText.validElements_iff]
  induction texts with
  | nil => exact fun _ h => nomatch h
  | cons text texts ih =>
    rw [List.map_cons, canonicalisedElements, List.forall_mem_cons]
    exact ⟨trivial, ih⟩

theorem CategoryBody.form_valid : ∀ member ∈ category.form, member.2.Valid := by
  have hfixed : ∀ rest : List (Text × JsValue),
      (∀ member ∈ canonicalisedOwn rest, member.2.Valid) →
      ∀ member ∈ canonicalisedOwn ((key "approval", .string (key category.approval.name)) ::
        (key "description", .string category.description) ::
        (key "approval_roles", textArray category.approvalRoles) :: rest), member.2.Valid := by
    intro rest hrest
    simp only [canonicalisedOwn, JsValue.canonicalised, textArray,
      show key "approval" ≠ protoKey by decide, show key "description" ≠ protoKey by decide,
      show key "approval_roles" ≠ protoKey by decide, if_false, List.forall_mem_cons]
    exact ⟨trivial, trivial, strings_valid category.approvalRoles, hrest⟩
  refine hfixed _ ?_
  cases category.requireRoleDiversity with
  | none => exact fun _ h => nomatch h
  | some value =>
    have hliteral : ∀ b : Bool, (JsonText.Json.literal (key (if b then "true" else "false"))).Valid := by
      intro b
      cases b <;> exact ⟨by decide, List.all_eq_true.mp rfl⟩
    intro member hmember
    obtain rfl := List.mem_singleton.mp hmember
    exact hliteral value

/-- What the schema keeps is written as JSON. -/
theorem stripped_valid : (objectForm body.stripped.own).Valid := by
  refine objectForm_valid fun member hmember => ?_
  have hcategory : ∀ entry ∈ body.stripped.categories, entry.2.canonical.Valid := by
    intro entry hentry
    obtain ⟨⟨name, category⟩, -, rfl⟩ := List.mem_map.mp (mem_named.mp hentry).1
    refine objectForm_valid fun member hmember => category.form_valid member ?_
    have hnone : (Prod.map id CategoryBody.stripped (name, category)).2.others = [] := rfl
    rwa [canonicalisedOwn_append, hnone, canonicalisedOwn, List.append_nil] at hmember
  simp only [canonicalisedOwn_own, List.mem_cons, List.not_mem_nil, or_false] at hmember
  rcases hmember with rfl | rfl | rfl | rfl | rfl
  · exact trivial
  · exact record_valid CategoryBody.canonicalised_toJs hcategory
  · exact record_valid (fun text => (rfl : (JsValue.string text).canonicalised = _))
      fun _ _ => trivial
  · exact record_valid (fun texts => (rfl : (textArray texts).canonicalised = _))
      fun entry _ => strings_valid entry.2
  · exact strings_valid _

/-- The schema strips nothing exactly when it leaves the text that is hashed as it is. -/
theorem canonicalJson_stripped_iff (draft : Draft) :
    canonicalJson draft.body.toJs = canonicalJson draft.body.stripped.toJs ↔
      draft.body.NothingStripped := by
  rw [← canonicalised_stripped_iff draft.isObject]
  constructor
  · intro h
    have hstripped : draft.body.stripped.toJs.canonicalised =
        some (objectForm draft.body.stripped.own) := rfl
    have hform : draft.body.toJs.canonicalised =
        some (objectForm (draft.body.own ++ draft.body.others)) := rfl
    rw [hform, hstripped]
    exact congrArg some (JsonText.print_injective wellFormed (draft.isObject.json _ hform)
      (stripped_valid draft.body) h)
  · intro h
    rw [canonicalJson, canonicalJson, h]

/-! ## Loading -/

theorem parsePolicy_eq_ok {body : Json} {parsed : PolicyBody} :
    parsePolicy body = .ok parsed ↔ parseBody body = some parsed := by
  rw [parsePolicy]
  split
  next h => simp [h]
  next h => simp [h]

theorem assertValidPolicy_eq_ok {policy policy' : Constitution.Policy} :
    assertValidPolicy policy = .ok policy' ↔ policy.validate = [] ∧ policy' = policy := by
  rw [assertValidPolicy]
  split
  next h => simp [h, eq_comm]
  next h => simp [h]

/-- The row describes the body it holds: the integrity check of `loadStored`. -/
structure Describes (platform : Platform) (stored : StoredRow) (parsed : PolicyBody) : Prop where
  contentSha256 : parsed.policyContentSha256 platform = stored.contentSha256
  version : asString parsed.version = stored.version

/-- A row is loaded when its body has the shape of a policy, the policy is coherent, and the row
    describes it. -/
theorem loadStored_eq_ok {platform : Platform} {stored : StoredRow} {loaded : LoadedPolicy} :
    loadStored platform stored = .ok loaded ↔
      ∃ parsed, parseBody stored.body = some parsed ∧ parsed.toPolicy.validate = [] ∧
        Describes platform stored parsed ∧
        loaded = ⟨parsed.toPolicy, stored.version, stored.contentSha256, stored.createdBy,
          stored.activatedAt⟩ := by
  simp only [loadStored, Except.bind_eq_ok, parsePolicy_eq_ok, assertValidPolicy_eq_ok]
  constructor
  · rintro ⟨parsed, hparse, _, ⟨hvalid, rfl⟩, h⟩
    split at h
    next => cases h
    next hhash =>
      split at h
      next => cases h
      next hversion =>
        cases h
        exact ⟨parsed, hparse, hvalid, ⟨not_not.mp hhash, not_not.mp hversion⟩, rfl⟩
  · rintro ⟨parsed, hparse, hvalid, hdescribes, rfl⟩
    refine ⟨parsed, hparse, _, ⟨hvalid, rfl⟩, ?_⟩
    have hversion : parsed.toPolicy.version = stored.version := hdescribes.version
    simp only [hdescribes.contentSha256, hversion, ne_eq, not_true_eq_false, if_false]
    rfl

/-- Two values that are hashed over different texts have one digest. -/
def Collides (platform : Platform) (value value' : JsValue) : Prop :=
  canonicalJson value ≠ canonicalJson value' ∧
    platform.sha256Hex (canonicalJson value) = platform.sha256Hex (canonicalJson value')

structure Draft.Loadable (platform : Platform) (draft : Draft) : Prop where
  nonEmpty : draft.body.NonEmpty
  coherent : draft.body.stripped.toPolicy.validate = []
  covered : draft.body.NothingStripped ∨
    Collides platform draft.body.toJs draft.body.stripped.toJs

/-- The row of a draft describes what the schema reads of it when the schema strips nothing. -/
theorem describes_iff (platform : Platform) (draft : Draft) (status : PolicyStatus)
    (createdBy : String) (activatedAt : Option Int) (stamp : Stamp) :
    Describes platform (storedAs platform draft.body status createdBy activatedAt stamp)
        draft.body.stripped ↔
      draft.body.NothingStripped ∨
        Collides platform draft.body.toJs draft.body.stripped.toJs := by
  rw [← canonicalJson_stripped_iff draft]
  constructor
  · intro h
    have hdigest : platform.sha256Hex (canonicalJson draft.body.stripped.toJs) =
        platform.sha256Hex (canonicalJson draft.body.toJs) := h.contentSha256
    by_cases hsame : canonicalJson draft.body.toJs = canonicalJson draft.body.stripped.toJs
    · exact Or.inl hsame
    · exact Or.inr ⟨hsame, hdigest.symm⟩
  · intro h
    refine ⟨?_, rfl⟩
    show platform.sha256Hex (canonicalJson draft.body.stripped.toJs) =
      platform.sha256Hex (canonicalJson draft.body.toJs)
    rcases h with hsame | ⟨-, hdigest⟩
    · rw [hsame]
    · exact hdigest.symm

theorem loadStored_storedAs_iff (platform : Platform) (draft : Draft) (status : PolicyStatus)
    (createdBy : String) (activatedAt : Option Int) (stamp : Stamp) :
    (∃ loaded, loadStored platform
        (storedAs platform draft.body status createdBy activatedAt stamp) = .ok loaded) ↔
      draft.Loadable platform := by
  simp only [loadStored_eq_ok]
  constructor
  · rintro ⟨_, parsed, hparse, hvalid, hdescribes, -⟩
    obtain ⟨hnonEmpty, rfl⟩ := (parseBody_policyBody draft.isObject).mp hparse
    exact ⟨hnonEmpty, hvalid,
      (describes_iff platform draft status createdBy activatedAt stamp).mp hdescribes⟩
  · intro h
    exact ⟨_, _, (parseBody_policyBody draft.isObject).mpr ⟨h.nonEmpty, rfl⟩, h.coherent,
      (describes_iff platform draft status createdBy activatedAt stamp).mpr h.covered, rfl⟩

end Sentinel.ConstitutionBody
