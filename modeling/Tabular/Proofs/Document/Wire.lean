import Mathlib.Data.List.Basic
import Tabular.Document.Wire
/-!
# Saved views read back

A reader that notes a written value finds in it the value that was written. For texts, names,
counts, lists and tables this is so part by part; a record is read member by member, each of which
sets its own part of the draft (`Node.readMembers_member`), and a part that is left out is left as
it is (`Node.readMembers_optionalMember`).

Put together, a saved view is read back as it was written, whatever its parts
(`ViewConfig.ofNode_toJson`). Its page and the size of its page must be 64-bit words, since no
reader takes a larger integer.
-/

namespace Tabular

/-! ## Names -/

theorem Operator.ofName?_name (op : Operator) : ofName? op.name = some op := by
  cases op <;> rfl

theorem Direction.ofName?_name (d : Direction) : ofName? d.name = some d := by
  cases d <;> rfl

theorem GroupOrder.ofName?_name (g : GroupOrder) : ofName? g.name = some g := by
  cases g <;> rfl

/-! ## Shapes -/

namespace Node

variable {α β δ : Type} {read : Node → Except Fault α}

theorem ofItems_eq_map (items : List Json) : ofItems items = items.map ofJson := by
  induction items with
  | nil => rfl
  | cons j rest ih => rw [ofItems, ih, List.map_cons]

theorem ofMembers_eq_map (members : List (String × Json)) :
    ofMembers members = members.map fun (k, j) => (.text k, ofJson j) := by
  induction members with
  | nil => rfl
  | cons m rest ih => rw [ofMembers, ih, List.map_cons]

/-- Reading one thing after the other succeeds when each reading does. -/
theorem mapM_map_eq_ok {write : α → β} {read : β → Except Fault α} {l : List α}
    (h : ∀ a ∈ l, read (write a) = .ok a) : (l.map write).mapM read = .ok l := by
  induction l with
  | nil => rfl
  | cons a l ih =>
    obtain ⟨ha, hl⟩ := List.forall_mem_cons.mp h
    rw [List.map_cons, List.mapM_cons, ha, ih hl]
    rfl

theorem asText_ofJson (s : String) : asText (ofJson (.string s)) = .ok s := rfl

theorem asChoice_ofJson {ofName? : String → Option α} {name : String} {a : α}
    (h : ofName? name = some a) : asChoice ofName? (ofJson (.string name)) = .ok a := by
  simp [ofJson, asChoice, asChoice.named, h]

/-- A number of 64 bits is read back as an unsigned integer, however it is noted. -/
theorem asCount_ofJson {n : Nat} (h : n < UInt64.size) : asCount (ofJson (.ofInt n)) = .ok n := by
  have hword : n < 0x10000000000000000 := h
  rw [Json.ofInt, Number.ofInt, ofJson]
  split
  · next hsigned =>
    have hn : (Int64.ofInt n).toInt = n := Int64.toInt_ofInt_of_le (by omega) (by omega)
    rw [asCount, hn]
    simp
  · next hsigned =>
    rw [if_pos (by omega), asCount, Int.toNat_natCast, UInt64.toNat_ofNat_of_lt' h]

theorem asOptional_ofJson {j : Json} {a : α} (h : read (ofJson j) = .ok a) (hj : j ≠ .null) :
    asOptional read (ofJson j) = .ok (some a) := by
  cases j with
  | null => exact absurd rfl hj
  | _ => exact congrArg (Except.map some) h

theorem asList_ofJson {write : α → Json} {l : List α}
    (h : ∀ a ∈ l, read (ofJson (write a)) = .ok a) :
    asList read (ofJson (.array (l.map write))) = .ok l := by
  have hitems : ((l.map write).map ofJson).mapM read = .ok l := by
    rw [List.map_map]
    exact mapM_map_eq_ok h
  rw [ofJson, asList, ofItems_eq_map, hitems]
  rfl

theorem asMembers_ofJson {write : α → Json} {l : List (String × α)}
    (h : ∀ e ∈ l, read (ofJson (write e.2)) = .ok e.2) :
    asMembers read (ofJson (.object (l.map fun (k, a) => (k, write a)))) = .ok l := by
  have hmembers : (l.map fun e => (NodeKey.text e.1, ofJson (write e.2))).mapM
      (asMembers.readMember read) = .ok l := by
    refine mapM_map_eq_ok fun e he => ?_
    rw [asMembers.readMember, h e he]
    rfl
  rw [ofJson, asMembers, ofMembers_eq_map, List.map_map]
  exact congrArg (· >>= fun values => raise none >>= fun _ => pure values) hmembers

/-! ### Records -/

section Records

variable {parts : List (Part δ)} {key : String} {get : δ → Option α} {set : δ → Option α → δ}
  {rest : List (String × Json)} {d : δ}

/-- A member is read by the part of its name. -/
theorem readMembers_cons {p : Part δ} {n : Node} {members : List (NodeKey × Node)}
    (hpart : parts.find? (fun p => p.name == key) = some p) (hunread : p.isRead d = false) :
    readMembers parts ((.text key, n) :: members) d = p.read n d >>= readMembers parts members := by
  have hkey : keyText (.text key) = pure key := rfl
  rw [readMembers, hkey, pure_bind, hpart]
  simp [hunread]

/-- A member of a part that has not come by sets this part. -/
theorem readMembers_member {value : Json} {a : α}
    (hpart : parts.find? (fun p => p.name == key) = some (part key get set read))
    (hunread : get d = none) (hvalue : read (ofJson value) = .ok a) :
    readMembers parts (ofMembers ((key, value) :: rest)) d =
      readMembers parts (ofMembers rest) (set d (some a)) := by
  have hisRead : (part key get set read).isRead d = false := by simp [part, hunread]
  rw [ofMembers, readMembers_cons hpart hisRead]
  change (read (ofJson value) >>= fun a => pure (set d (some a))) >>= _ = _
  rw [hvalue]
  rfl

/-- A member that may be left out sets its part if it is there. -/
theorem readMembers_optionalMember {write : β → Json} {back : β → α} {value? : Option β}
    (hpart : parts.find? (fun p => p.name == key) = some (part key get set read))
    (hunread : get d = none) (hset : set d none = d)
    (hvalue : ∀ b ∈ value?, read (ofJson (write b)) = .ok (back b)) :
    readMembers parts (ofMembers (Json.optionalMember key (value?.map write) ++ rest)) d =
      readMembers parts (ofMembers rest) (set d (value?.map back)) := by
  cases value? with
  | none => exact congrArg (readMembers parts (ofMembers rest)) hset.symm
  | some b => exact readMembers_member hpart hunread (hvalue b rfl)

/-- A record is what its members come to. -/
theorem asRecord_ofJson {members : List (String × Json)} {start d : δ}
    (h : readMembers parts (ofMembers members) start = .ok d) :
    asRecord parts start (ofJson (.object members)) = .ok d := by
  rw [ofJson, asRecord, h]
  rfl

end Records

end Node

/-! ## Parts of a saved view -/

open Node

theorem Filter.ofNode_toJson (f : Filter) : ofNode (.ofJson f.toJson) = .ok f := by
  have hrecord : asRecord parts {} (.ofJson f.toJson) =
      .ok ⟨some f.operator, some f.value, f.secondValue?.map some⟩ := by
    refine asRecord_ofJson ?_
    refine (readMembers_member (by rfl) (by rfl) (asChoice_ofJson f.operator.ofName?_name)).trans ?_
    refine (readMembers_member (by rfl) (by rfl) (asText_ofJson f.value)).trans ?_
    rw [← List.append_nil (Json.optionalMember ..)]
    refine (readMembers_optionalMember (by rfl) (by rfl) (by rfl) fun s _ => ?_).trans (by rfl)
    exact asOptional_ofJson (asText_ofJson s) nofun
  rw [ofNode, hrecord]
  cases f with
  | mk operator value secondValue? => cases secondValue? <;> rfl

theorem FilterSet.ofNode_toJson (s : FilterSet) : ofNode (.ofJson s.toJson) = .ok s := by
  rw [ofNode, toJson, asMembers_ofJson fun e _ => e.2.ofNode_toJson]
  exact congrArg Except.ok s.ofList_toList

theorem SortKey.ofNode_toJson (k : SortKey) : ofNode (.ofJson k.toJson) = .ok k := by
  have hrecord : asRecord parts {} (.ofJson k.toJson) = .ok ⟨some k.field, some k.direction⟩ := by
    refine asRecord_ofJson ?_
    refine (readMembers_member (by rfl) (by rfl) (asText_ofJson k.field)).trans ?_
    have hdirection := asChoice_ofJson k.direction.ofName?_name
    exact (readMembers_member (by rfl) (by rfl) hdirection).trans rfl
  rw [ofNode, hrecord]
  rfl

theorem SortSpec.ofNode_toJson (s : SortSpec) : ofNode (.ofJson s.toJson) = .ok s := by
  rw [ofNode, toJson, asList_ofJson fun k _ => k.ofNode_toJson]
  rfl

/-- Null is read back as the group of blank values, and a text as the group of this text. -/
theorem GroupPath.ofNode_toJson (p : GroupPath) : ofNode (.ofJson p.toJson) = .ok p := by
  have hwrite : p.toJson =
      .array ((p.values.map (·.toOption)).map fun o => (o.map Json.string).getD .null) := by
    rw [toJson, List.map_map]
    rfl
  have hread : ∀ o ∈ p.values.map (·.toOption),
      asOptional asText (.ofJson ((o.map Json.string).getD .null)) = .ok o := by
    intro o _
    cases o <;> rfl
  have hback : (p.values.map (·.toOption)).map GroupValue.ofOption = p.values := by
    rw [List.map_map]
    exact (List.map_congr_left fun v _ => v.ofOption_toOption).trans p.values.map_id
  rw [ofNode, hwrite, asList_ofJson hread]
  exact congrArg (fun values => Except.ok (GroupPath.mk values)) hback

/-! ## Saved views -/

namespace ViewConfig

/-- The folded groups that are written: a list of them is left out when it is empty. -/
def writtenGroups? (c : ViewConfig) : Option (List GroupPath) :=
  if c.collapsedGroups.isEmpty then none else some c.collapsedGroups

theorem getD_writtenGroups? (c : ViewConfig) : c.writtenGroups?.getD [] = c.collapsedGroups := by
  rw [writtenGroups?]
  split
  · next hempty => exact (List.isEmpty_iff.mp hempty).symm
  · rfl

/-- The draft that a written view comes to. -/
def draft (c : ViewConfig) : Draft :=
  { id := some c.id
    name := some c.name
    visibleColumns := some c.visibleColumns
    groupBy := some c.groupBy
    sort := some c.sort
    filters := some c.filters
    pageSize := c.pageSize?.map some
    page := c.page?.map some
    collapsedGroups := c.writtenGroups?.map fun l => l
    groupOrder := c.groupOrder?.map some }

theorem asRecord_toJson {c : ViewConfig} (hsize : ∀ n ∈ c.pageSize?, n < UInt64.size)
    (hpage : ∀ n ∈ c.page?, n < UInt64.size) :
    asRecord parts {} (.ofJson c.toJson) = .ok c.draft := by
  have htexts : ∀ l : List String, asList asText (.ofJson (.array (l.map .string))) = .ok l :=
    fun l => asList_ofJson fun s _ => asText_ofJson s
  have hcount : ∀ n ∈ c.pageSize?, asOptional asCount (.ofJson (.ofInt n)) = .ok (some n) :=
    fun n hn => asOptional_ofJson (asCount_ofJson (hsize n hn)) nofun
  have hindex : ∀ n ∈ c.page?, asOptional asCount (.ofJson (.ofInt n)) = .ok (some n) :=
    fun n hn => asOptional_ofJson (asCount_ofJson (hpage n hn)) nofun
  have hpaths : ∀ l ∈ c.writtenGroups?,
      asList GroupPath.ofNode (.ofJson (.array (l.map GroupPath.toJson))) = .ok l :=
    fun l _ => asList_ofJson fun p _ => p.ofNode_toJson
  have hmode : ∀ g ∈ c.groupOrder?,
      asOptional (asChoice GroupOrder.ofName?) (.ofJson (.string g.name)) = .ok (some g) :=
    fun g _ => asOptional_ofJson (asChoice_ofJson g.ofName?_name) nofun
  have hgroups : (if c.collapsedGroups.isEmpty then none
      else some (.array (c.collapsedGroups.map GroupPath.toJson))) =
        c.writtenGroups?.map fun l => Json.array (l.map GroupPath.toJson) := by
    rw [writtenGroups?]
    split <;> rfl
  rw [toJson, hgroups]
  refine asRecord_ofJson ?_
  simp only [List.append_assoc, List.cons_append, List.nil_append]
  -- after each member the draft is written out, or else the drafts pile up
  refine (readMembers_member (by rfl) (by rfl) (asText_ofJson c.id)).trans ?_
  dsimp only
  refine (readMembers_member (by rfl) (by rfl) (asText_ofJson c.name)).trans ?_
  dsimp only
  refine (readMembers_member (by rfl) (by rfl) (htexts c.visibleColumns)).trans ?_
  dsimp only
  refine (readMembers_member (by rfl) (by rfl) (htexts c.groupBy)).trans ?_
  dsimp only
  refine (readMembers_member (by rfl) (by rfl) c.sort.ofNode_toJson).trans ?_
  dsimp only
  refine (readMembers_member (by rfl) (by rfl) c.filters.ofNode_toJson).trans ?_
  dsimp only
  refine (readMembers_optionalMember (by rfl) (by rfl) (by rfl) hcount).trans ?_
  dsimp only
  refine (readMembers_optionalMember (by rfl) (by rfl) (by rfl) hindex).trans ?_
  dsimp only
  refine (readMembers_optionalMember (by rfl) (by rfl) (by rfl) hpaths).trans ?_
  dsimp only
  rw [← List.append_nil (Json.optionalMember ..)]
  exact (readMembers_optionalMember (by rfl) (by rfl) (by rfl) hmode).trans rfl

/-- **A saved view is read back as it was written.** -/
theorem ofNode_toJson {c : ViewConfig} (hsize : ∀ n ∈ c.pageSize?, n < UInt64.size)
    (hpage : ∀ n ∈ c.page?, n < UInt64.size) : ofNode (.ofJson c.toJson) = .ok c := by
  have hjoin : ∀ {β : Type} (o : Option β), (o.map some).join = o := fun o => by cases o <;> rfl
  have hgroups : (c.writtenGroups?.map fun l => l).getD [] = c.collapsedGroups := by
    rw [Option.map_id', getD_writtenGroups?]
  rw [ofNode, asRecord_toJson hsize hpage]
  change Except.ok { c with
    pageSize? := (c.pageSize?.map some).join
    page? := (c.page?.map some).join
    collapsedGroups := (c.writtenGroups?.map fun l => l).getD []
    groupOrder? := (c.groupOrder?.map some).join } = .ok c
  rw [hjoin, hjoin, hjoin, hgroups]

end ViewConfig

end Tabular
