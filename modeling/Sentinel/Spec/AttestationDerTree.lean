import Sentinel.Spec.AttestationDerExact

/-! # Whether an attestation reads back

Reading a node and writing it again gives the octets it was read from, and reading a whole tree
likewise, but for one case: a tag number below 31 that stands after its identifier octet is read as
if it stood inside it. -/

namespace Sentinel.AttestationDer

open Except

/-! ## Children -/

/-- Octets that are those of one node after another. -/
inductive Tiles : List UInt8 → List DerNode → Prop
  | nil : Tiles [] []
  | cons {octets rest : List UInt8} {node : DerNode} {nodes : List DerNode}
      (head : Stands octets node) (tail : Tiles rest nodes) : Tiles (octets ++ rest) (node :: nodes)

variable {node : DerNode} {nodes acc : List DerNode} {content : List UInt8} {offset rounds : Nat}

theorem Stands.length_pos {octets : List UInt8} (h : Stands octets node) : 0 < octets.length := by
  have hlength := List.length_pos_of_ne_nil (Der.lengthOctets_ne_nil node.content.length)
  cases h.form with
  | inl hform =>
    rw [hform, Der.encode, List.length_append, List.length_append]
    omega
  | inr hform =>
    rw [hform.2, Der.encodeLong, List.length_append, List.length_append]
    omega

theorem Tiles.append {octets octets' : List UInt8} {nodes' : List DerNode}
    (h : Tiles octets nodes) (h' : Tiles octets' nodes') :
    Tiles (octets ++ octets') (nodes ++ nodes') := by
  induction h with
  | nil => exact h'
  | cons head _ ih =>
    rw [List.append_assoc]
    exact .cons head ih

theorem readDerNode_of_drop {octets rest : List UInt8}
    (hdrop : content.drop offset = octets ++ rest) (h : Stands octets node) :
    readDerNode content offset = .ok node :=
  readDerNode_eq_ok.mpr ⟨Int.natCast_nonneg _, octets, rest, hdrop, h⟩

theorem readChildrenFrom_sound
    {children : List DerNode} {stop : Nat} (hoffset : offset ≤ content.length)
    (h : readChildrenFrom content rounds offset acc = .ok (children, stop)) :
    stop = content.length ∧ ∃ nodes, children = acc ++ nodes ∧ Tiles (content.drop offset) nodes := by
  induction rounds generalizing offset acc with
  | zero => cases h
  | succ rounds ih =>
    unfold readChildrenFrom at h
    split at h
    · obtain ⟨child, hchild, h⟩ := bind_eq_ok.mp h
      obtain ⟨-, octets, rest, hdrop, hstands⟩ := readDerNode_eq_ok.mp hchild
      rw [Int.toNat_natCast] at hdrop
      have hpos := hstands.length_pos
      have hlength := congrArg List.length hdrop
      rw [List.length_drop, List.length_append] at hlength
      rw [hstands.total] at h
      rw [if_neg (by omega)] at h
      obtain ⟨hstop, nodes, hchildren, htiles⟩ := ih (by omega) h
      rw [← List.drop_drop, hdrop, List.drop_left] at htiles
      refine ⟨hstop, child :: nodes, by rw [hchildren, List.append_assoc]; rfl, ?_⟩
      rw [hdrop]
      exact .cons hstands htiles
    · have hpair := Prod.mk.inj (Except.ok.inj h)
      refine ⟨by omega, [], by rw [List.append_nil, hpair.1], ?_⟩
      rw [List.drop_eq_nil_of_le (by omega)]
      exact .nil

theorem readChildrenFrom_complete {rest : List UInt8} (h : Tiles rest nodes)
    (hoffset : offset ≤ content.length) (hdrop : content.drop offset = rest)
    (hrounds : rest.length < rounds) :
    readChildrenFrom content rounds offset acc = .ok (acc ++ nodes, content.length) := by
  induction h generalizing rounds offset acc with
  | nil =>
    obtain ⟨rounds, rfl⟩ : ∃ k, rounds = k + 1 := ⟨rounds - 1, by omega⟩
    have hend := length_le_of_drop hdrop
    rw [readChildrenFrom, if_neg (by omega), List.append_nil, Nat.le_antisymm hend hoffset]
  | @cons octets rest node nodes head tail ih =>
    obtain ⟨rounds, rfl⟩ : ∃ k, rounds = k + 1 := ⟨rounds - 1, by omega⟩
    have hpos := head.length_pos
    have hlength := congrArg List.length hdrop
    rw [List.length_drop, List.length_append] at hlength
    rw [List.length_append] at hrounds
    rw [readChildrenFrom, if_pos (by omega), readDerNode_of_drop hdrop head, ok_bind, head.total,
      if_neg (by omega), ih (by omega) (by rw [← List.drop_drop, hdrop, List.drop_left]) (by omega),
      List.append_assoc]
    rfl

theorem settled_readChildrenFrom
    (hoffset : offset ≤ content.length) (hrounds : content.length < offset + rounds) :
    Settled (readChildrenFrom content rounds offset acc) := by
  induction rounds generalizing offset acc with
  | zero => omega
  | succ rounds ih =>
    unfold readChildrenFrom
    split
    · apply (settled_readDerNode content offset).bind
      intro child hchild
      obtain ⟨-, octets, rest, hdrop, hstands⟩ := readDerNode_eq_ok.mp hchild
      have hpos := hstands.length_pos
      have hlength := congrArg List.length hdrop
      rw [Int.toNat_natCast, List.length_drop, List.length_append] at hlength
      split
      · exact settled_null
      · rw [hstands.total]
        exact ih (by omega) (by omega)
    · exact settled_ok _

theorem readDerChildren_eq_ok {children : List DerNode} : readDerChildren node = .ok children ↔
      node.constructed = true ∧ Tiles node.content children := by
  unfold readDerChildren
  cases hconstructed : node.constructed with
  | false => exact ⟨(fun h => nomatch h), (fun h => nomatch h.1)⟩
  | true =>
    rw [if_neg (by decide)]
    constructor
    · intro h
      obtain ⟨⟨nodes, stop⟩, hread, h⟩ := bind_eq_ok.mp h
      obtain ⟨hstop, nodes', hnodes, htiles⟩ := readChildrenFrom_sound (Nat.zero_le _) hread
      rw [List.drop_zero] at htiles
      dsimp only at h
      rw [if_pos hstop] at h
      rw [← Except.ok.inj h, hnodes]
      exact ⟨rfl, htiles⟩
    · intro ⟨_, htiles⟩
      rw [readChildrenFrom_complete htiles (Nat.zero_le _) (List.drop_zero) (Nat.lt_succ_self _),
        ok_bind]
      dsimp only
      rw [if_pos rfl, List.nil_append]

theorem settled_readDerChildren (node : DerNode) : Settled (readDerChildren node) := by
  unfold readDerChildren
  split
  · exact settled_null
  · apply (settled_readChildrenFrom (Nat.zero_le _) (by omega)).bind
    intro result _
    dsimp only
    split
    · exact settled_ok _
    · exact settled_null

theorem readDerNodeExact_eq_ok {octets : List UInt8} :
    readDerNodeExact octets = .ok node ↔ Stands octets node := by
  unfold readDerNodeExact
  rw [bind_eq_ok]
  constructor
  · intro ⟨node', hread, h⟩
    obtain ⟨-, octets', rest, hdrop, hstands⟩ := readDerNode_eq_ok.mp hread
    rw [Int.toNat_zero, List.drop_zero] at hdrop
    split at h
    · rename_i htotal
      rw [hstands.total, hdrop, List.length_append] at htotal
      have hrest : rest = [] := List.eq_nil_of_length_eq_zero (by omega)
      rw [← Except.ok.inj h, hdrop, hrest, List.append_nil]
      exact hstands
    · cases h
  · intro h
    refine ⟨node, readDerNode_eq_ok.mpr ⟨Int.le_refl _, octets, [], ?_, h⟩, if_pos h.total⟩
    rw [Int.toNat_zero, List.drop_zero, List.append_nil]

theorem Stands.unique {octets : List UInt8} {node' : DerNode} (h : Stands octets node)
    (h' : Stands octets node') : node = node' :=
  Except.ok.inj ((readDerNodeExact_eq_ok.mpr h).symm.trans (readDerNodeExact_eq_ok.mpr h'))

theorem Tiles.unique {octets : List UInt8} {nodes' : List DerNode} (h : Tiles octets nodes)
    (h' : Tiles octets nodes') : nodes = nodes' := by
  have hread (l : List DerNode) (hl : Tiles octets l) :
      readDerChildren ⟨0, true, 0, octets, 0⟩ = .ok l := readDerChildren_eq_ok.mpr ⟨rfl, hl⟩
  exact Except.ok.inj ((hread _ h).symm.trans (hread _ h'))

/-! ## Writing a node again -/

def DerNode.octets (node : DerNode) : List UInt8 := Der.encode node.tag node.content

/-- A tagged value whose tag number, below 31, stands after the identifier octet. -/
def LongTag (octets : List UInt8) : Prop :=
  ∃ node, Fits node ∧ node.tagNumber < 31 ∧ octets = Der.encodeLong node.tag node.content

theorem length_octets_lt (h : node.tagNumber < 31) :
    node.octets.length < (Der.encodeLong node.tag node.content).length := by
  obtain ⟨init, last, hbase, -⟩ := Der.exists_carries node.tag.number
  rw [DerNode.octets, Der.encode, Der.encodeLong, Der.Tag.octets,
    if_pos (show node.tag.number < 31 from h), Der.Tag.longOctets, hbase]
  simp only [List.length_append, List.length_cons]
  omega

theorem LongTag.stands {octets : List UInt8} (h : LongTag octets) :
    ∃ node, Stands octets node ∧ node.octets.length < octets.length := by
  obtain ⟨node, hfits, hsmall, hoctets⟩ := h
  refine ⟨{ node with totalLength := octets.length }, ⟨⟨?_, ?_, ?_⟩, .inr ⟨hsmall, hoctets⟩, rfl⟩, ?_⟩
  · exact hfits.tagClass
  · exact hfits.number
  · exact hfits.length
  · rw [hoctets]
    exact length_octets_lt hsmall

theorem Stands.octets_or {octets : List UInt8} (h : Stands octets node) :
    octets = node.octets ∨ LongTag octets := by
  cases h.form with
  | inl hform => exact .inl hform
  | inr hform => exact .inr ⟨node, h.fits, hform⟩

theorem Stands.octets_eq_iff {octets : List UInt8} (h : Stands octets node) :
    node.octets = octets ↔ ¬ LongTag octets := by
  constructor
  · intro heq hlong
    obtain ⟨node', hstands, hlt⟩ := hlong.stands
    rw [← hstands.unique h] at heq
    rw [heq] at hlt
    exact Nat.lt_irrefl _ hlt
  · intro hnot
    exact (h.octets_or.resolve_right hnot).symm

theorem Stands.length_le {octets : List UInt8} (h : Stands octets node) :
    node.octets.length ≤ octets.length := by
  cases h.form with
  | inl hform =>
    rw [hform]
    exact Nat.le_refl _
  | inr hform =>
    rw [hform.2]
    exact Nat.le_of_lt (length_octets_lt hform.1)

/-! ## Writing the children again -/

/-- One node after another, with such a tag in one of them. -/
def LongTagAmong (octets : List UInt8) : Prop :=
  ∃ before long after nodes nodes', octets = before ++ (long ++ after) ∧
    Tiles before nodes ∧ LongTag long ∧ Tiles after nodes'

theorem Tiles.octets_or {octets : List UInt8} (h : Tiles octets nodes) :
    octets = nodes.flatMap DerNode.octets ∨ LongTagAmong octets := by
  induction h with
  | nil => exact .inl rfl
  | @cons octets rest node nodes head tail ih =>
    cases head.octets_or with
    | inr hlong => exact .inr ⟨[], octets, rest, [], nodes, rfl, .nil, hlong, tail⟩
    | inl hoctets =>
      cases ih with
      | inl hrest => exact .inl (by rw [List.flatMap_cons, ← hoctets, ← hrest])
      | inr hamong =>
        obtain ⟨before, long, after, nodes₁, nodes₂, hrest, hbefore, hlong, hafter⟩ := hamong
        exact .inr ⟨octets ++ before, long, after, node :: nodes₁, nodes₂,
          by rw [hrest, List.append_assoc], .cons head hbefore, hlong, hafter⟩

theorem Tiles.length_le {octets : List UInt8} (h : Tiles octets nodes) :
    (nodes.flatMap DerNode.octets).length ≤ octets.length := by
  induction h with
  | nil => exact Nat.le_refl _
  | cons head _ ih =>
    have hhead := head.length_le
    rw [List.flatMap_cons, List.length_append, List.length_append]
    omega

theorem Tiles.octets_eq_iff {octets : List UInt8} (h : Tiles octets nodes) :
    octets = nodes.flatMap DerNode.octets ↔ ¬ LongTagAmong octets := by
  constructor
  · intro heq ⟨before, long, after, nodes₁, nodes₂, hsplit, hbefore, hlong, hafter⟩
    obtain ⟨node, hstands, hlt⟩ := hlong.stands
    have htiles := hbefore.append (.cons hstands hafter)
    rw [← hsplit] at htiles
    rw [h.unique htiles] at heq
    have hlength := congrArg List.length (hsplit.symm.trans heq)
    have hbeforeLength := hbefore.length_le
    have hafterLength := hafter.length_le
    simp only [List.flatMap_append, List.flatMap_cons, List.length_append] at hlength
    omega
  · intro hnot
    exact h.octets_or.resolve_right hnot

/-! ## Writing a tree again -/

/-- A tagged value whose constructed parts have been read to the bottom. -/
inductive Tree
  | leaf (tagClass tagNumber : Nat) (content : List UInt8)
  | branch (tagClass tagNumber : Nat) (children : List Tree)

mutual
def Reads (node : DerNode) : Tree → Prop
  | .leaf tagClass tagNumber content =>
    node.tag = ⟨tagClass, false, tagNumber⟩ ∧ node.content = content
  | .branch tagClass tagNumber trees =>
    node.tag = ⟨tagClass, true, tagNumber⟩ ∧
      ∃ children, readDerChildren node = .ok children ∧ ReadsAll children trees

def ReadsAll : List DerNode → List Tree → Prop
  | [], [] => True
  | node :: nodes, tree :: trees => Reads node tree ∧ ReadsAll nodes trees
  | _, _ => False
end

/-- The octets are one tagged value and this is its tree. -/
def Parses (octets : List UInt8) (tree : Tree) : Prop :=
  ∃ node, readDerNodeExact octets = .ok node ∧ Reads node tree

mutual
def Tree.octets : Tree → List UInt8
  | .leaf tagClass tagNumber content => Der.encode ⟨tagClass, false, tagNumber⟩ content
  | .branch tagClass tagNumber trees => Der.encode ⟨tagClass, true, tagNumber⟩ (treesOctets trees)

def treesOctets : List Tree → List UInt8
  | [] => []
  | tree :: trees => tree.octets ++ treesOctets trees
end

/-- A tagged value with such a tag of its own, or of one inside it. -/
inductive LongTagInside : List UInt8 → Prop
  | here {octets : List UInt8} (h : LongTag octets) : LongTagInside octets
  | inside {octets before inner after : List UInt8} {node : DerNode} {nodes nodes' : List DerNode}
      (h : Stands octets node) (hconstructed : node.constructed = true)
      (hcontent : node.content = before ++ (inner ++ after)) (hbefore : Tiles before nodes)
      (hinner : LongTagInside inner) (hafter : Tiles after nodes') : LongTagInside octets

mutual
theorem reads_octets_or : (tree : Tree) → {octets : List UInt8} → {node : DerNode} →
    Stands octets node → Reads node tree → tree.octets = octets ∨ LongTagInside octets
  | .leaf tagClass tagNumber content, octets, node, h, hreads => by
    cases h.octets_or with
    | inr hlong => exact .inr (.here hlong)
    | inl hoctets =>
      left
      rw [hoctets, DerNode.octets, hreads.1, hreads.2]
      rfl
  | .branch tagClass tagNumber trees, octets, node, h, hreads => by
    obtain ⟨htag, children, hchildren, hall⟩ := hreads
    obtain ⟨hconstructed, htiles⟩ := readDerChildren_eq_ok.mp hchildren
    cases h.octets_or with
    | inr hlong => exact .inr (.here hlong)
    | inl hoctets =>
      cases readsAll_octets_or trees htiles hall with
      | inl hcontent =>
        left
        rw [hoctets, DerNode.octets, htag, Tree.octets, hcontent]
      | inr hinside =>
        obtain ⟨before, inner, after, nodes, nodes', hsplit, hbefore, hinner, hafter⟩ := hinside
        exact .inr (.inside h hconstructed hsplit hbefore hinner hafter)

theorem readsAll_octets_or : (trees : List Tree) → {octets : List UInt8} → {nodes : List DerNode} →
    Tiles octets nodes → ReadsAll nodes trees →
      treesOctets trees = octets ∨ ∃ before inner after nodes₁ nodes₂,
        octets = before ++ (inner ++ after) ∧ Tiles before nodes₁ ∧ LongTagInside inner ∧
          Tiles after nodes₂
  | [], _, _, .nil, _ => .inl rfl
  | tree :: trees, _, _, @Tiles.cons octets rest node _ head tail, hall => by
    cases reads_octets_or tree head hall.1 with
    | inr hinside => exact .inr ⟨[], octets, rest, [], _, rfl, .nil, hinside, tail⟩
    | inl hoctets =>
      cases readsAll_octets_or trees tail hall.2 with
      | inl hrest =>
        left
        rw [treesOctets, hoctets, hrest]
      | inr hinside =>
        obtain ⟨before, inner, after, nodes₁, nodes₂, hsplit, hbefore, hinner, hafter⟩ := hinside
        exact .inr ⟨octets ++ before, inner, after, node :: nodes₁, nodes₂,
          by rw [hsplit, List.append_assoc], .cons head hbefore, hinner, hafter⟩
end

mutual
theorem length_reads_le : (tree : Tree) → {octets : List UInt8} → {node : DerNode} →
    Stands octets node → Reads node tree → tree.octets.length ≤ octets.length
  | .leaf tagClass tagNumber content, octets, node, h, hreads => by
    have hle := h.length_le
    rwa [DerNode.octets, hreads.1, hreads.2] at hle
  | .branch tagClass tagNumber trees, octets, node, h, hreads => by
    obtain ⟨htag, children, hchildren, hall⟩ := hreads
    have hinner := length_readsAll_le trees (readDerChildren_eq_ok.mp hchildren).2 hall
    have hle := h.length_le
    rw [DerNode.octets, htag] at hle
    exact Nat.le_trans (Der.length_encode_le hinner) hle

theorem length_readsAll_le : (trees : List Tree) → {octets : List UInt8} → {nodes : List DerNode} →
    Tiles octets nodes → ReadsAll nodes trees → (treesOctets trees).length ≤ octets.length
  | [], _, _, .nil, _ => Nat.le_refl _
  | tree :: trees, _, _, .cons head tail, hall => by
    have hhead := length_reads_le tree head hall.1
    have htail := length_readsAll_le trees tail hall.2
    rw [treesOctets, List.length_append, List.length_append]
    omega
end

theorem readsAll_append {nodes nodes' : List DerNode} {trees : List Tree}
    (h : ReadsAll (nodes ++ nodes') trees) :
    ∃ trees₁ trees₂, trees = trees₁ ++ trees₂ ∧ ReadsAll nodes trees₁ ∧ ReadsAll nodes' trees₂ := by
  induction nodes generalizing trees with
  | nil => exact ⟨[], trees, rfl, trivial, h⟩
  | cons node nodes ih =>
    cases trees with
    | nil => exact h.elim
    | cons tree trees =>
      obtain ⟨trees₁, trees₂, htrees, h₁, h₂⟩ := ih h.2
      exact ⟨tree :: trees₁, trees₂, by rw [htrees]; rfl, ⟨h.1, h₁⟩, h₂⟩

theorem treesOctets_append (trees trees' : List Tree) :
    treesOctets (trees ++ trees') = treesOctets trees ++ treesOctets trees' := by
  induction trees with
  | nil => rfl
  | cons tree trees ih => rw [List.cons_append, treesOctets, ih, treesOctets, List.append_assoc]

theorem LongTagInside.stands {octets : List UInt8} (h : LongTagInside octets) :
    ∃ node, Stands octets node := by
  cases h with
  | here h =>
    obtain ⟨node, hstands, -⟩ := h.stands
    exact ⟨node, hstands⟩
  | inside h => exact ⟨_, h⟩

/-- Such a tag anywhere inside makes the octets longer than the encoding of their tree. -/
theorem LongTagInside.length_lt {octets : List UInt8} (h : LongTagInside octets) {node : DerNode}
    (hstands : Stands octets node) {tree : Tree} (hreads : Reads node tree) :
    tree.octets.length < octets.length := by
  induction h generalizing node tree with
  | here h =>
    obtain ⟨node', hstands', hlt⟩ := h.stands
    rw [hstands'.unique hstands] at hlt
    -- the encoding of the tree is no longer than that of its node
    have hnode : Stands node.octets { node with totalLength := node.octets.length } :=
      ⟨⟨hstands.fits.tagClass, hstands.fits.number, hstands.fits.length⟩, .inl rfl, rfl⟩
    have hle : tree.octets.length ≤ node.octets.length := by
      apply length_reads_le tree hnode
      cases tree with
      | leaf => exact hreads
      | branch => exact hreads
    omega
  | @inside octets before inner after node' nodes nodes' h hconstructed hcontent hbefore hinner
      hafter ih =>
    rw [h.unique hstands] at hconstructed hcontent
    cases tree with
    | leaf tagClass tagNumber content =>
      have hprimitive : node.constructed = false := congrArg Der.Tag.constructed hreads.1
      rw [hprimitive] at hconstructed
      cases hconstructed
    | branch tagClass tagNumber trees =>
      obtain ⟨htag, children, hchildren, hall⟩ := hreads
      obtain ⟨innerNode, hinnerStands⟩ := hinner.stands
      have htiles := hbefore.append (.cons hinnerStands hafter)
      rw [← hcontent] at htiles
      rw [(readDerChildren_eq_ok.mp hchildren).2.unique htiles] at hall
      obtain ⟨trees₁, trees', htrees, hall₁, hall'⟩ := readsAll_append hall
      cases trees' with
      | nil => exact hall'.elim
      | cons innerTree trees₂ =>
        have hlt := ih hinnerStands hall'.1
        have hle₁ := length_readsAll_le trees₁ hbefore hall₁
        have hle₂ := length_readsAll_le trees₂ hafter hall'.2
        have hcontentLength : (treesOctets trees).length < node.content.length := by
          rw [htrees, treesOctets_append, treesOctets, hcontent]
          simp only [List.length_append]
          omega
        have hle := hstands.length_le
        rw [DerNode.octets, htag] at hle
        exact Nat.lt_of_lt_of_le (Der.length_encode_lt hcontentLength) hle

theorem octets_eq_iff {octets : List UInt8} {tree : Tree} (h : Parses octets tree) :
    tree.octets = octets ↔ ¬ LongTagInside octets := by
  obtain ⟨node, hnode, hreads⟩ := h
  have hstands := readDerNodeExact_eq_ok.mp hnode
  constructor
  · intro heq hinside
    have hlt := hinside.length_lt hstands hreads
    rw [heq] at hlt
    exact Nat.lt_irrefl _ hlt
  · intro hnot
    exact (reads_octets_or tree hstands hreads).resolve_right hnot

/-! ## Distinguished encodings alone -/

/-- The octets at an offset begin with a tagged value whose tag number, below 31, stands after the
    identifier octet. -/
def LongTagAt (buffer : List UInt8) (offset : Int) : Prop :=
  0 ≤ offset ∧ ∃ octets rest, buffer.drop offset.toNat = octets ++ rest ∧ LongTag octets

/-- The reader stays inside the buffer and ends, and the octets it takes for a node are the
    distinguished encoding of the node. -/
def NodeExact (buffer : List UInt8) (offset : Int) : Prop :=
  Settled (readDerNode buffer offset) ∧ ∀ node, readDerNode buffer offset = .ok node →
    offset.toNat + node.totalLength ≤ buffer.length ∧
      (buffer.drop offset.toNat).take node.totalLength = node.octets

/-- The reader of the children stays inside the content and ends, and the children it returns tile
    the content and have it as their distinguished encodings in a row. -/
def ChildrenExact (node : DerNode) : Prop :=
  Settled (readDerChildren node) ∧ ∀ children, readDerChildren node = .ok children →
    Tiles node.content children ∧ node.content = children.flatMap DerNode.octets

theorem nodeExact_iff (buffer : List UInt8) (offset : Int) :
    NodeExact buffer offset ↔ ¬ LongTagAt buffer offset := by
  constructor
  · intro ⟨_, hexact⟩ ⟨hoffset, octets, rest, hdrop, hlong⟩
    obtain ⟨node, hstands, hlt⟩ := hlong.stands
    have htaken := (hexact node (readDerNode_eq_ok.mpr ⟨hoffset, octets, rest, hdrop, hstands⟩)).2
    rw [hdrop, hstands.total, List.take_left] at htaken
    rw [htaken] at hlt
    exact Nat.lt_irrefl _ hlt
  · intro hnot
    refine ⟨settled_readDerNode buffer offset, fun node hread => ?_⟩
    obtain ⟨hoffset, octets, rest, hdrop, hstands⟩ := readDerNode_eq_ok.mp hread
    have hpos := hstands.length_pos
    have hlength := congrArg List.length hdrop
    rw [List.length_drop, List.length_append] at hlength
    rw [hstands.total, hdrop, List.take_left]
    have hform : ¬ LongTag octets := fun hlong => hnot ⟨hoffset, octets, rest, hdrop, hlong⟩
    exact ⟨by omega, (hstands.octets_eq_iff.mpr hform).symm⟩

theorem childrenExact_iff (node : DerNode) :
    ChildrenExact node ↔ ¬ (node.constructed = true ∧ LongTagAmong node.content) := by
  constructor
  · intro ⟨_, hexact⟩ ⟨hconstructed, hamong⟩
    obtain ⟨before, long, after, nodes, nodes', hsplit, hbefore, hlong, hafter⟩ := id hamong
    obtain ⟨node', hstands, -⟩ := hlong.stands
    have htiles := hbefore.append (.cons hstands hafter)
    rw [← hsplit] at htiles
    have hwritten := (hexact _ (readDerChildren_eq_ok.mpr ⟨hconstructed, htiles⟩)).2
    exact htiles.octets_eq_iff.mp hwritten hamong
  · intro hnot
    refine ⟨settled_readDerChildren node, fun children hread => ?_⟩
    obtain ⟨hconstructed, htiles⟩ := readDerChildren_eq_ok.mp hread
    exact ⟨htiles, htiles.octets_eq_iff.mpr fun hamong => hnot ⟨hconstructed, hamong⟩⟩

/-- The reader takes distinguished encodings alone exactly where no tag number below 31 stands after
its identifier octet, in the value or inside it; then no other byte string has the same tree. -/
theorem der_exact_iff (octets : List UInt8) (offset : Int) (node : DerNode) :
    (NodeExact octets offset ↔ ¬ LongTagAt octets offset) ∧
    (ChildrenExact node ↔ ¬ (node.constructed = true ∧ LongTagAmong node.content)) ∧
    (∀ tree, Parses octets tree → (tree.octets = octets ↔ ¬ LongTagInside octets)) ∧
    (∀ octets' tree, Parses octets tree → Parses octets' tree → ¬ LongTagInside octets →
      ¬ LongTagInside octets' → octets = octets') := by
  refine ⟨nodeExact_iff octets offset, childrenExact_iff node, fun tree h => octets_eq_iff h, ?_⟩
  intro octets' tree h h' hnot hnot'
  rw [← (octets_eq_iff h).mpr hnot, (octets_eq_iff h').mpr hnot']

/-- An integer, and the same one with its tag number after the identifier octet. -/
theorem der_not_exact :
    ¬ NodeExact [0x1f, 0x02, 0x01, 0x05] 0 ∧
      ∃ tree, Parses [0x1f, 0x02, 0x01, 0x05] tree ∧ Parses [0x02, 0x01, 0x05] tree := by
  constructor
  · intro h
    have htaken := (h.2 ⟨0, false, 2, [0x05], 4⟩ (by decide)).2
    revert htaken
    decide
  · exact ⟨.leaf 0 2 [0x05], ⟨⟨0, false, 2, [0x05], 4⟩, by decide, rfl, rfl⟩,
      ⟨⟨0, false, 2, [0x05], 3⟩, by decide, rfl, rfl⟩⟩

theorem der_exact_iff_integer :
    Parses [0x02, 0x01, 0x05] (.leaf 0 2 [0x05]) ∧ ¬ LongTagInside [0x02, 0x01, 0x05] := by
  have hparses : Parses [0x02, 0x01, 0x05] (.leaf 0 2 [0x05]) :=
    ⟨⟨0, false, 2, [0x05], 3⟩, by decide, rfl, rfl⟩
  exact ⟨hparses, ((der_exact_iff _ 0 ⟨0, false, 2, [0x05], 3⟩).2.2.1 _ hparses).mp (by decide)⟩

end Sentinel.AttestationDer
