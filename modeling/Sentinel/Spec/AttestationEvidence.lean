import Sentinel.ForStd.Except
import Sentinel.Native.AndroidAttestation

/-! # Whether attestation evidence can be read two ways

An accepted authorisation list names no tag twice.  An accepted certificate carries one extension
with the identifier in the first `[3]` of its to-be-signed part; later holders are not looked at. -/

namespace Sentinel.AttestationDer

open Except

/-! ## The extensions of a holder -/

def DerNode.children (node : DerNode) : List DerNode :=
  match readDerChildren node with
  | .ok children => children
  | .error _ => []

variable {node extension extnId last : DerNode} {wantedOid : List UInt8}
  {extensionNodes : List DerNode} {found : Option (List UInt8)}

theorem DerNode.children_eq {children : List DerNode}
    (h : readDerChildren node = .ok children) : node.children = children := by
  rw [DerNode.children, h]

/-- An extension with the identifier: a SEQUENCE that begins with it. -/
def carries (wantedOid : List UInt8) (node : DerNode) : Bool :=
  isSequence node && node.children.head?.any fun extnId =>
    isPrimitive extnId universalObjectIdentifier && extnId.content == wantedOid

/-- The octets of the last field. -/
def extnValue (extension : DerNode) : List UInt8 :=
  (extension.children.getLast?.map DerNode.content).getD []

/-- The extensions with the identifier in the lists under a node. -/
def matching (wantedOid : List UInt8) (holder : DerNode) : List DerNode :=
  ((holder.children.filter isSequence).flatMap DerNode.children).filter (carries wantedOid)

/-- The first and the last field of an extension, with the criticality between them or without. -/
def Fields (extension extnId last : DerNode) : Prop :=
  readDerChildren extension = .ok [extnId, last] ∨
    ∃ critical, readDerChildren extension = .ok [extnId, critical, last]

structure WellFormed (extension : DerNode) : Prop where
  isSequence : isSequence extension = true
  fields : ∃ extnId last, Fields extension extnId last ∧
    isPrimitive extnId universalObjectIdentifier = true ∧
      isPrimitive last universalOctetString = true

theorem Fields.head? (h : Fields extension extnId last) :
    extension.children.head? = some extnId := by
  cases h with
  | inl h => rw [DerNode.children_eq h, List.head?_cons]
  | inr h =>
    obtain ⟨critical, h⟩ := h
    rw [DerNode.children_eq h, List.head?_cons]

theorem Fields.getLast? (h : Fields extension extnId last) :
    extension.children.getLast? = some last := by
  cases h with
  | inl h => rw [DerNode.children_eq h]; rfl
  | inr h =>
    obtain ⟨critical, h⟩ := h
    rw [DerNode.children_eq h]
    rfl

theorem Fields.extnValue (h : Fields extension extnId last) :
    extnValue extension = last.content := by
  rw [AttestationDer.extnValue, h.getLast?]
  rfl

theorem readDerOctetString_eq (h : isPrimitive node universalOctetString = true) :
    readDerOctetString node = .ok node.content := if_pos h

theorem isPrimitive_of_readDerOctetString {octets : List UInt8}
    (h : readDerOctetString node = .ok octets) : isPrimitive node universalOctetString = true := by
  unfold readDerOctetString at h
  split at h
  · assumption
  · cases h

theorem findExtension_cons
    (hsequence : isSequence extension = true) (hfields : Fields extension extnId last) :
    findExtension wantedOid (extension :: extensionNodes) found =
      if !isPrimitive extnId universalObjectIdentifier then .error .null
      else readDerOctetString last >>= fun extnValue =>
        if extnId.content ≠ wantedOid then findExtension wantedOid extensionNodes found
        else if found.isSome then .error .null
        else findExtension wantedOid extensionNodes (some extnValue) := by
  have hnot : ¬ (!isSequence extension) = true := by rw [hsequence]; decide
  rw [findExtension, if_neg hnot]
  cases hfields with
  | inl h => rw [h, ok_bind]
  | inr h =>
    obtain ⟨critical, h⟩ := h
    rw [h, ok_bind]

/-- The loop gets past an extension that has its fields alone. -/
theorem fields_of_findExtension {result : Option (List UInt8)}
    (h : findExtension wantedOid (extension :: extensionNodes) found = .ok result) :
    isSequence extension = true ∧ ∃ extnId last, Fields extension extnId last := by
  unfold findExtension at h
  split at h
  · cases h
  · rename_i hsequence
    rw [Bool.not_eq_true, Bool.not_eq_false'] at hsequence
    obtain ⟨fields, hfields, h⟩ := bind_eq_ok.mp h
    split at h
    · exact ⟨hsequence, _, _, .inl hfields⟩
    · exact ⟨hsequence, _, _, .inr ⟨_, hfields⟩⟩
    · cases h

/-- What the search of one holder returns: the value of the only extension with the identifier. -/
theorem findExtension_eq_some_iff {value : List UInt8} :
    findExtension wantedOid extensionNodes found = .ok (some value) ↔
      (∀ extension ∈ extensionNodes, WellFormed extension) ∧
        found.toList ++ (extensionNodes.filter (carries wantedOid)).map extnValue = [value] := by
  induction extensionNodes generalizing found with
  | nil =>
    rw [findExtension, List.filter_nil, List.map_nil, List.append_nil]
    cases found with
    | none => simp
    | some found => simp
  | cons extension extensionNodes ih =>
    rw [List.forall_mem_cons]
    by_cases hfields : isSequence extension = true ∧ ∃ extnId last, Fields extension extnId last
    · obtain ⟨hsequence, extnId, last, hfields⟩ := hfields
      rw [findExtension_cons hsequence hfields]
      by_cases hwell : isPrimitive extnId universalObjectIdentifier = true ∧
          isPrimitive last universalOctetString = true
      · have hextension : WellFormed extension := ⟨hsequence, extnId, last, hfields, hwell⟩
        have hcarries : carries wantedOid extension = (extnId.content == wantedOid) := by
          rw [carries, hsequence, hfields.head?, Option.any_some, hwell.1, Bool.true_and,
            Bool.true_and]
        rw [if_neg (by rw [hwell.1]; decide), readDerOctetString_eq hwell.2, ok_bind]
        by_cases hoid : extnId.content = wantedOid
        · rw [if_neg (not_not.mpr hoid), List.filter_cons_of_pos (by rw [hcarries, hoid]; simp),
            List.map_cons, hfields.extnValue]
          cases found with
          | none =>
            rw [if_neg (by decide), ih]
            exact ⟨fun h => ⟨⟨hextension, h.1⟩, h.2⟩, fun h => ⟨h.1.2, h.2⟩⟩
          | some found =>
            rw [if_pos (show (some found).isSome = true from rfl)]
            constructor
            · intro h
              cases h
            · intro ⟨_, hvalues⟩
              cases hvalues
        · rw [if_pos hoid, List.filter_cons_of_neg (by rw [hcarries]; simpa using hoid), ih]
          exact ⟨fun h => ⟨⟨hextension, h.1⟩, h.2⟩, fun h => ⟨h.1.2, h.2⟩⟩
      · constructor
        · intro h
          split at h
          · cases h
          · rename_i hextnId
            obtain ⟨octets, hlast, -⟩ := bind_eq_ok.mp h
            rw [Bool.not_eq_true, Bool.not_eq_false'] at hextnId
            exact absurd ⟨hextnId, isPrimitive_of_readDerOctetString hlast⟩ hwell
        · intro ⟨⟨⟨_, extnId', last', hfields', hwell'⟩, _⟩, _⟩
          rw [Option.some.inj (hfields'.head?.symm.trans hfields.head?),
            Option.some.inj (hfields'.getLast?.symm.trans hfields.getLast?)] at hwell'
          exact absurd hwell' hwell
    · constructor
      · intro h
        exact absurd (fields_of_findExtension h) hfields
      · intro ⟨⟨hextension, _⟩, _⟩
        obtain ⟨extnId, last, h, -⟩ := hextension.fields
        exact absurd ⟨hextension.isSequence, extnId, last, h⟩ hfields

/-! ## The extension of a certificate -/

/-- A holder of extensions in the to-be-signed part. -/
def isHolder (node : DerNode) : Bool := isContext node 3 && node.constructed

/-- The values of the to-be-signed part of a certificate. -/
def TbsChildren (certificateDer : List UInt8) (tbsChildren : List DerNode) : Prop :=
  ∃ certificate tbs algorithm signature, readDerNodeExact certificateDer = .ok certificate ∧
    isSequence certificate = true ∧
      readDerChildren certificate = .ok [tbs, algorithm, signature] ∧ isSequence tbs = true ∧
        readDerChildren tbs = .ok tbsChildren

theorem TbsChildren.unique {certificateDer : List UInt8} {tbsChildren tbsChildren' : List DerNode}
    (h : TbsChildren certificateDer tbsChildren) (h' : TbsChildren certificateDer tbsChildren') :
    tbsChildren = tbsChildren' := by
  obtain ⟨certificate, tbs, _, _, hcertificate, -, hchildren, -, htbs⟩ := h
  obtain ⟨certificate', tbs', _, _, hcertificate', -, hchildren', -, htbs'⟩ := h'
  rw [Except.ok.inj (hcertificate'.symm.trans hcertificate), hchildren] at hchildren'
  rw [← (List.cons.inj (Except.ok.inj hchildren')).1, htbs] at htbs'
  exact Except.ok.inj htbs'

def WellFormedHolder (holder : DerNode) : Prop :=
  ∃ extensions extensionNodes, readDerChildren holder = .ok [extensions] ∧
    isSequence extensions = true ∧ readDerChildren extensions = .ok extensionNodes ∧
      ∀ extension ∈ extensionNodes, WellFormed extension

theorem matching_eq {holder extensions : DerNode}
    (hholder : readDerChildren holder = .ok [extensions])
    (hsequence : isSequence extensions = true)
    (hextensions : readDerChildren extensions = .ok extensionNodes) :
    matching wantedOid holder = extensionNodes.filter (carries wantedOid) := by
  rw [matching, DerNode.children_eq hholder, List.filter_cons_of_pos hsequence, List.filter_nil,
    List.flatMap_singleton, DerNode.children_eq hextensions]

theorem findCertificateExtension_eq_ok_iff {certificateDer value : List UInt8}
    {oid : List UInt16} :
    findCertificateExtension certificateDer oid = .ok value ↔
      ∃ wantedOid tbsChildren holder, encodeObjectIdentifier oid = .ok wantedOid ∧
        TbsChildren certificateDer tbsChildren ∧ tbsChildren.find? isHolder = some holder ∧
          WellFormedHolder holder ∧ (matching wantedOid holder).map extnValue = [value] := by
  constructor
  · intro h
    unfold findCertificateExtension at h
    obtain ⟨wantedOid, hoid, h⟩ := bind_eq_ok.mp h
    obtain ⟨certificate, hcertificate, h⟩ := bind_eq_ok.mp h
    split at h
    · cases h
    · rename_i hsequence
      obtain ⟨children, hchildren, h⟩ := bind_eq_ok.mp h
      split at h
      · split at h
        · cases h
        · rename_i tbs algorithm signature htbs
          obtain ⟨tbsChildren, htbsChildren, h⟩ := bind_eq_ok.mp h
          split at h
          · cases h
          · rename_i holder hholder
            obtain ⟨holderChildren, hholderChildren, h⟩ := bind_eq_ok.mp h
            split at h
            · split at h
              · cases h
              · rename_i extensions hextensions
                obtain ⟨extensionNodes, hnodes, h⟩ := bind_eq_ok.mp h
                obtain ⟨found, hfound, h⟩ := bind_eq_ok.mp h
                cases found with
                | none => cases h
                | some found =>
                  rw [Bool.not_eq_true, Bool.not_eq_false'] at hsequence htbs hextensions
                  rw [Except.ok.inj h] at hfound
                  obtain ⟨hwell, hvalue⟩ := findExtension_eq_some_iff.mp hfound
                  refine ⟨wantedOid, tbsChildren, holder, hoid,
                    ⟨certificate, tbs, algorithm, signature, hcertificate, hsequence, hchildren, htbs,
                      htbsChildren⟩, hholder,
                    ⟨extensions, extensionNodes, hholderChildren, hextensions, hnodes, hwell⟩, ?_⟩
                  rw [matching_eq hholderChildren hextensions hnodes]
                  exact hvalue
            · cases h
      · cases h
  · intro ⟨wantedOid, tbsChildren, holder, hoid,
      ⟨certificate, tbs, algorithm, signature, hcertificate, hsequence, hchildren, htbs,
        htbsChildren⟩, hholder,
      ⟨extensions, extensionNodes, hholderChildren, hextensions, hnodes, hwell⟩, hvalue⟩
    rw [matching_eq hholderChildren hextensions hnodes] at hvalue
    have hfound := findExtension_eq_some_iff.mpr
      (show (∀ extension ∈ extensionNodes, WellFormed extension) ∧
        (none : Option (List UInt8)).toList ++
          (extensionNodes.filter (carries wantedOid)).map extnValue = [value] from ⟨hwell, hvalue⟩)
    unfold findCertificateExtension
    have hnot {b : Bool} (hb : b = true) : ¬ (!b) = true := by rw [hb]; decide
    rw [hoid, ok_bind, hcertificate, ok_bind, if_neg (hnot hsequence), hchildren, ok_bind]
    dsimp only
    rw [if_neg (hnot htbs), htbsChildren, ok_bind]
    rw [show (tbsChildren.find? fun child => isContext child 3 && child.constructed) = some holder
      from hholder]
    dsimp only
    rw [hholderChildren, ok_bind]
    dsimp only
    rw [if_neg (hnot hextensions), hnodes, ok_bind, hfound, ok_bind]

/-- Every extension with the identifier, over all the holders. -/
def allMatching (wantedOid : List UInt8) (tbsChildren : List DerNode) : List DerNode :=
  (tbsChildren.filter isHolder).flatMap (matching wantedOid)

def FoundOnce (certificateDer : List UInt8) (oid : List UInt16) : Prop :=
  ∀ value, findCertificateExtension certificateDer oid = .ok value →
    ∃ wantedOid tbsChildren extension, encodeObjectIdentifier oid = .ok wantedOid ∧
      TbsChildren certificateDer tbsChildren ∧
        allMatching wantedOid tbsChildren = [extension] ∧ extnValue extension = value

/-- The first holder is well formed and has one extension with the identifier, and a holder after it
    has another. -/
def RepeatedLater (certificateDer : List UInt8) (oid : List UInt16) : Prop :=
  ∃ wantedOid tbsChildren holder later, encodeObjectIdentifier oid = .ok wantedOid ∧
    TbsChildren certificateDer tbsChildren ∧ tbsChildren.filter isHolder = holder :: later ∧
      WellFormedHolder holder ∧ (matching wantedOid holder).length = 1 ∧
        ∃ other ∈ later, matching wantedOid other ≠ []

theorem foundOnce_iff (certificateDer : List UInt8) (oid : List UInt16) :
    FoundOnce certificateDer oid ↔ ¬ RepeatedLater certificateDer oid := by
  constructor
  · intro honce ⟨wantedOid, tbsChildren, holder, later, hoid, htbs, hfilter, hwell, hone, other,
      hmem, hother⟩
    obtain ⟨extension, hextension⟩ := List.length_eq_one_iff.mp hone
    have hfirst : tbsChildren.find? isHolder = some holder := by
      rw [← List.head?_filter, hfilter, List.head?_cons]
    obtain ⟨wantedOid', tbsChildren', extension', hoid', htbs', hall, -⟩ := honce (extnValue extension)
      (findCertificateExtension_eq_ok_iff.mpr ⟨wantedOid, tbsChildren, holder, hoid, htbs, hfirst,
        hwell, by rw [hextension, List.map_singleton]⟩)
    rw [htbs'.unique htbs, ← Except.ok.inj (hoid.symm.trans hoid'), allMatching, hfilter,
      List.flatMap_cons, hextension, List.singleton_append] at hall
    have hrest : later.flatMap (matching wantedOid) = [] := (List.cons.inj hall).2
    exact hother (List.flatMap_eq_nil_iff.mp hrest other hmem)
  · intro hnot value h
    obtain ⟨wantedOid, tbsChildren, holder, hoid, htbs, hfirst, hwell, hvalue⟩ :=
      findCertificateExtension_eq_ok_iff.mp h
    obtain ⟨extension, hextension, hextnValue⟩ := List.map_eq_singleton_iff.mp hvalue
    obtain ⟨later, hfilter⟩ : ∃ later, tbsChildren.filter isHolder = holder :: later := by
      rw [← List.head?_filter] at hfirst
      exact List.head?_eq_some_iff.mp hfirst
    have hrest : later.flatMap (matching wantedOid) = [] := by
      apply List.flatMap_eq_nil_iff.mpr
      intro other hmem
      by_contra hother
      exact hnot ⟨wantedOid, tbsChildren, holder, later, hoid, htbs, hfilter, hwell,
        by rw [hextension]; rfl, other, hmem, hother⟩
    refine ⟨wantedOid, tbsChildren, extension, hoid, htbs, ?_, hextnValue⟩
    rw [allMatching, hfilter, List.flatMap_cons, hextension, hrest, List.append_nil]

/-! ## The tags of an authorisation list -/

/-- An authorisation list whose entries are context-specific, with their tags strictly ascending. -/
def Ascending (list : DerNode) : Prop :=
  isSequence list = true ∧ ∃ entries, readDerChildren list = .ok entries ∧
    (∀ entry ∈ entries, entry.tagClass = tagClassContext ∧ entry.constructed = true) ∧
      entries.Pairwise fun entry later => entry.tagNumber < later.tagNumber

theorem ascending_of_readAuthorizations {entries : List DerNode} {previousTag : Int}
    {list result : AuthorizationList}
    (h : readAuthorizations entries previousTag list = .ok result) :
    (∀ entry ∈ entries, previousTag < entry.tagNumber) ∧
      (∀ entry ∈ entries, entry.tagClass = tagClassContext ∧ entry.constructed = true) ∧
        entries.Pairwise fun entry later => entry.tagNumber < later.tagNumber := by
  induction entries generalizing previousTag list with
  | nil => exact ⟨(fun _ h => nomatch h), (fun _ h => nomatch h), .nil⟩
  | cons entry entries ih =>
    unfold readAuthorizations at h
    split at h
    · cases h
    · rename_i hentry
      split at h
      · cases h
      · rename_i htag
        obtain ⟨inner, -, h⟩ := bind_eq_ok.mp h
        split at h
        · obtain ⟨list', -, h⟩ := bind_eq_ok.mp h
          obtain ⟨hafter, hcontext, hpairwise⟩ := ih h
          refine ⟨List.forall_mem_cons.mpr ⟨by omega, fun later hmem => ?_⟩,
            List.forall_mem_cons.mpr ⟨?_, hcontext⟩, List.pairwise_cons.mpr ⟨?_, hpairwise⟩⟩
          · have := hafter later hmem
            omega
          · simpa using hentry
          · intro later hmem
            have := hafter later hmem
            omega
        · cases h

theorem ascending_of_parseAuthorizationList {list : AuthorizationList}
    (h : parseAuthorizationList node = .ok list) : Ascending node := by
  unfold parseAuthorizationList at h
  split at h
  · cases h
  · rename_i hsequence
    rw [Bool.not_eq_true, Bool.not_eq_false'] at hsequence
    obtain ⟨entries, hentries, h⟩ := bind_eq_ok.mp h
    have hascending := ascending_of_readAuthorizations h
    exact ⟨hsequence, entries, hentries, hascending.2⟩

/-- What a key description is read from: eight fields, the last two of them the authorisation
    lists. -/
theorem ascending_of_parseAndroidKeyDescription {extensionValue : List UInt8}
    {description : KeyDescription}
    (h : parseAndroidKeyDescription extensionValue = .ok description) :
    ∃ root fields software tee, readDerNodeExact extensionValue = .ok root ∧
      readDerChildren root = .ok fields ∧ fields.length = 8 ∧ fields[6]? = some software ∧
        fields[7]? = some tee ∧
          parseAuthorizationList software = .ok description.softwareEnforced ∧
            parseAuthorizationList tee = .ok description.teeEnforced ∧
              Ascending software ∧ Ascending tee := by
  unfold parseAndroidKeyDescription at h
  obtain ⟨root, hroot, h⟩ := bind_eq_ok.mp h
  split at h
  · cases h
  · obtain ⟨fields, hfields, h⟩ := bind_eq_ok.mp h
    split at h
    · rename_i version securityLevel keymaster keymasterLevel challenge uniqueId software tee
      obtain ⟨_, -, h⟩ := bind_eq_ok.mp h
      obtain ⟨_, -, h⟩ := bind_eq_ok.mp h
      obtain ⟨_, -, h⟩ := bind_eq_ok.mp h
      obtain ⟨_, -, h⟩ := bind_eq_ok.mp h
      obtain ⟨_, -, h⟩ := bind_eq_ok.mp h
      obtain ⟨_, -, h⟩ := bind_eq_ok.mp h
      obtain ⟨softwareEnforced, hsoftware, h⟩ := bind_eq_ok.mp h
      obtain ⟨teeEnforced, htee, h⟩ := bind_eq_ok.mp h
      rw [← Except.ok.inj h]
      exact ⟨root, _, software, tee, hroot, hfields, rfl, rfl, rfl, hsoftware, htee,
        ascending_of_parseAuthorizationList hsoftware, ascending_of_parseAuthorizationList htee⟩
    · cases h

/-- An extension that is found is the only one with its identifier exactly where no holder after the
    first has another, and an accepted key description names no tag of a list twice. -/
theorem evidence_read_once_iff (certificateDer extensionValue : List UInt8) (oid : List UInt16) :
    (FoundOnce certificateDer oid ↔ ¬ RepeatedLater certificateDer oid) ∧
    (∀ description, parseAndroidKeyDescription extensionValue = .ok description →
      ∃ root fields software tee, readDerNodeExact extensionValue = .ok root ∧
        readDerChildren root = .ok fields ∧ fields.length = 8 ∧ fields[6]? = some software ∧
          fields[7]? = some tee ∧
            parseAuthorizationList software = .ok description.softwareEnforced ∧
              parseAuthorizationList tee = .ok description.teeEnforced ∧
                Ascending software ∧ Ascending tee) :=
  ⟨foundOnce_iff certificateDer oid, fun _ h => ascending_of_parseAndroidKeyDescription h⟩

/-! ### A certificate with two holders -/

def holderOctets (value : UInt8) : List UInt8 :=
  [0xa3, 0x13, 0x30, 0x11, 0x30, 0x0f, 0x06, 0x0a, 0x2b, 0x06, 0x01, 0x04, 0x01, 0xd6, 0x79, 0x02,
    0x01, 0x11, 0x04, 0x01, value]

/-- A certificate whose to-be-signed part is two such holders. -/
def twoHolders : List UInt8 :=
  [0x30, 0x31, 0x30, 0x2a] ++ holderOctets 0x00 ++ holderOctets 0x01 ++ [0x30, 0x00, 0x03, 0x01, 0x00]

def holderNode (value : UInt8) : DerNode := ⟨2, true, 3, (holderOctets value).drop 2, 21⟩

theorem tbsChildren_twoHolders : TbsChildren twoHolders [holderNode 0x00, holderNode 0x01] :=
  ⟨⟨0, true, 16, twoHolders.drop 2, 51⟩, ⟨0, true, 16, (twoHolders.drop 4).take 42, 44⟩,
    ⟨0, true, 16, [], 2⟩, ⟨0, false, 3, [0x00], 3⟩, by decide, by decide +kernel,
    by decide, by decide +kernel, by decide +kernel⟩

theorem found_in_twoHolders :
    findCertificateExtension twoHolders androidKeyAttestationExtensionOid = .ok [0x00] ∧
      ¬ FoundOnce twoHolders androidKeyAttestationExtensionOid := by
  have hfound : findCertificateExtension twoHolders androidKeyAttestationExtensionOid = .ok [0x00] := by
    decide
  have hoid : encodeObjectIdentifier androidKeyAttestationExtensionOid =
      .ok [0x2b, 0x06, 0x01, 0x04, 0x01, 0xd6, 0x79, 0x02, 0x01, 0x11] := by decide
  refine ⟨hfound, fun honce => ?_⟩
  obtain ⟨wantedOid, tbsChildren, extension, hoid', htbs, hall, -⟩ := honce _ hfound
  rw [htbs.unique tbsChildren_twoHolders, ← Except.ok.inj (hoid.symm.trans hoid')] at hall
  have htwo : (allMatching [0x2b, 0x06, 0x01, 0x04, 0x01, 0xd6, 0x79, 0x02, 0x01, 0x11]
      [holderNode 0x00, holderNode 0x01]).length = 2 := by decide
  rw [hall] at htwo
  cases htwo

/-- A key description whose first authorisation list has an algorithm and a key size. -/
theorem evidence_read_once_keySize :
    ∃ root fields software tee,
      readDerNodeExact [0x30, 0x1f, 0x02, 0x01, 0x03, 0x0a, 0x01, 0x01, 0x02, 0x01, 0x04, 0x0a, 0x01,
        0x01, 0x04, 0x00, 0x04, 0x00, 0x30, 0x0b, 0xa2, 0x03, 0x02, 0x01, 0x03, 0xa3, 0x04, 0x02, 0x02,
        0x01, 0x00, 0x30, 0x00] = .ok root ∧
      readDerChildren root = .ok fields ∧ fields.length = 8 ∧ fields[6]? = some software ∧
        fields[7]? = some tee ∧
          parseAuthorizationList software = .ok { algorithm := some 3, keySize := some 256 } ∧
            parseAuthorizationList tee = .ok {} ∧ Ascending software ∧ Ascending tee :=
  (evidence_read_once_iff [] _ []).2 ⟨3, 1, 4, 1, [], { algorithm := some 3, keySize := some 256 }, {}⟩
    (by decide)

end Sentinel.AttestationDer
