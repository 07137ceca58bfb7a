import Mathlib.Data.List.Induction
import Tabular.Proofs.Check
import Tabular.Record.Inference
/-!
# Schemas of first occurrences

A schema is inferred in one pass over the members of all records. What the pass has noted is known
after each member: a key that is new is noted behind the others (`Schema.map_fst_note`), and the
domain that is noted of a key is the first one that a value of the key suggests
(`Schema.notedDomain?_note`).

So the fields are the keys of the records in the order of their first occurrence, each with the
domain of its first usable value (`Schema.infer_first_occurrences`), and each of them names a
record's own member of the key, dots and all (`Json.exists_fieldValue_of_mem_keys`).
-/

namespace Tabular

namespace Json

/-- The members of a record, none for a record that is no object. -/
def members : Json → List (String × Json)
  | object members => members
  | _ => []

/-- The keys of a record. -/
def keys (record : Json) : List String := record.members.map (·.1)

/-- Whether a value suggests a domain: neither null nor an object does. -/
def isUsable : Json → Bool
  | null | object _ => false
  | _ => true

theorem isSome_suggestedBy? (value : Json) :
    (Domain.suggestedBy? value).isSome = value.isUsable := by
  cases value with
  | string s =>
    simp only [Domain.suggestedBy?, isUsable]
    split
    · rfl
    · split <;> rfl
  | _ => rfl

/-- **A key of a record names the record's own value**, whatever dots it has. -/
theorem exists_fieldValue_of_mem_keys {record : Json} {key : String} (h : key ∈ record.keys) :
    ∃ value, record.get? key = some value ∧ (key, value) ∈ record.members ∧
      record.fieldValue key = .ofJson value := by
  cases record with
  | object members =>
    cases hlookup : members.lookup key with
    | none =>
      obtain ⟨member, hmember, rfl⟩ := List.mem_map.mp h
      have := List.lookup_eq_none_iff.mp hlookup member hmember
      simp at this
    | some value =>
      obtain ⟨before, after, rfl, -⟩ := List.lookup_eq_some_iff.mp hlookup
      refine ⟨value, hlookup, by simp [Json.members], ?_⟩
      simp only [fieldValue, partIn?, hlookup]
  | _ => cases h

end Json

namespace Schema

/-! ## One member -/

section Note

variable {key k : String} {value : Json} {noted : List (String × Option Domain)}

/-- A new key is noted behind the others, and a key that is noted already stays where it is. -/
theorem map_fst_note : (note key value noted).map (·.1) =
    if key ∈ noted.map (·.1) then noted.map (·.1) else noted.map (·.1) ++ [key] := by
  induction noted with
  | nil => rfl
  | cons entry noted ih =>
    obtain ⟨other, domain⟩ := entry
    rw [note]
    by_cases h : other = key
    · simp [h]
    · rw [if_neg (by simpa using h), List.map_cons, ih]
      by_cases hmem : key ∈ noted.map (·.1) <;> simp [hmem, Ne.symm h]

/-- The domain that is noted of a key. -/
def notedDomain? (noted : List (String × Option Domain)) (k : String) : Option Domain :=
  (noted.find? (·.1 == k)).bind (·.2)

/-- A value suggests the domain of its key when none is noted yet. -/
theorem notedDomain?_note : notedDomain? (note key value noted) k =
    if key = k then (notedDomain? noted k).or (Domain.suggestedBy? value)
    else notedDomain? noted k := by
  induction noted with
  | nil => by_cases h : key = k <;> simp [note, notedDomain?, h]
  | cons entry noted ih =>
    obtain ⟨other, domain⟩ := entry
    unfold notedDomain? at ih ⊢
    rw [note]
    by_cases h : other = key
    · subst h
      by_cases hk : other = k <;> simp [hk]
    · rw [if_neg (by simpa using h)]
      by_cases hk : other = k
      · subst hk
        simp [Ne.symm h]
      · simpa [hk] using ih

end Note

/-! ## All members -/

/-- What is noted of members, one after the other. -/
def notedOf (members : List (String × Json)) : List (String × Option Domain) :=
  members.foldl (fun noted m => note m.1 m.2 noted) []

/-- The values of a key among members, in their order. -/
def valuesOf (key : String) (members : List (String × Json)) : List Json :=
  members.filterMap fun m => if m.1 = key then some m.2 else none

section Members

variable {members : List (String × Json)} {k : String}

theorem notedOf_concat (m : String × Json) :
    notedOf (members ++ [m]) = note m.1 m.2 (notedOf members) := by
  rw [notedOf, List.foldl_append]
  rfl

/-- The keys that are noted are those of the members. -/
theorem mem_map_fst_notedOf :
    k ∈ (notedOf members).map (·.1) ↔ k ∈ members.map (·.1) := by
  induction members using List.reverseRecOn generalizing k with
  | nil => exact Iff.rfl
  | append_singleton members m ih =>
    rw [notedOf_concat, map_fst_note, List.map_append, List.mem_append, ← ih]
    split
    case isTrue hm =>
      refine ⟨.inl, fun h => h.elim id fun hk => ?_⟩
      rwa [List.mem_singleton.mp hk]
    case isFalse hm => exact List.mem_append

/-- **The keys are noted in the order of their first occurrence.** -/
theorem pairwise_idxOf_notedOf : ((notedOf members).map (·.1)).Pairwise fun a b =>
    (members.map (·.1)).idxOf a < (members.map (·.1)).idxOf b := by
  induction members using List.reverseRecOn with
  | nil => exact List.Pairwise.nil
  | append_singleton members m ih =>
    -- what occurs among the members before is where it was
    have hbefore {key : String} (hkey : key ∈ (notedOf members).map (·.1)) :
        ((members ++ [m]).map (·.1)).idxOf key = (members.map (·.1)).idxOf key := by
      rw [List.map_append, List.idxOf_append_of_mem (mem_map_fst_notedOf.mp hkey)]
    have hkept : ((notedOf members).map (·.1)).Pairwise fun a b =>
        ((members ++ [m]).map (·.1)).idxOf a < ((members ++ [m]).map (·.1)).idxOf b :=
      ih.imp_of_mem fun ha hb h => by rwa [hbefore ha, hbefore hb]
    rw [notedOf_concat, map_fst_note]
    split
    case isTrue hm => exact hkept
    case isFalse hm =>
      refine List.pairwise_append.mpr ⟨hkept, List.pairwise_singleton .., fun a ha b hb => ?_⟩
      obtain rfl := List.mem_singleton.mp hb
      have hlast : ((members ++ [m]).map (·.1)).idxOf m.1 = (members.map (·.1)).length := by
        rw [List.map_append, List.idxOf_append_of_notMem fun h => hm (mem_map_fst_notedOf.mpr h)]
        simp
      rw [hbefore ha, hlast]
      exact List.idxOf_lt_length_of_mem (mem_map_fst_notedOf.mp ha)

theorem nodup_map_fst_notedOf : ((notedOf members).map (·.1)).Nodup :=
  pairwise_idxOf_notedOf.imp fun h heq => by simp [heq] at h

/-- **The first usable value of a key gives its domain.** -/
theorem notedDomain?_notedOf :
    notedDomain? (notedOf members) k = (valuesOf k members).findSome? Domain.suggestedBy? := by
  induction members using List.reverseRecOn with
  | nil => rfl
  | append_singleton members m ih =>
    have hvalues : valuesOf k (members ++ [m]) =
        valuesOf k members ++ if m.1 = k then [m.2] else [] := by
      by_cases h : m.1 = k <;> simp [valuesOf, h]
    rw [notedOf_concat, notedDomain?_note, ih, hvalues, List.findSome?_append]
    by_cases h : m.1 = k <;> simp [h]

end Members

/-! ## Records -/

theorem foldl_noteRecord (records : List Json) (noted : List (String × Option Domain)) :
    records.foldl noteRecord noted =
      (records.flatMap Json.members).foldl (fun noted m => note m.1 m.2 noted) noted := by
  induction records generalizing noted with
  | nil => rfl
  | cons record records ih =>
    rw [List.foldl_cons, ih, List.flatMap_cons, List.foldl_append]
    cases record <;> rfl

/-- The first value of a key, record by record, that is neither null nor an object. -/
def firstUsable? (records : List Json) (key : String) : Option Json :=
  (valuesOf key (records.flatMap Json.members)).find? Json.isUsable

theorem findSome?_suggestedBy? (values : List Json) :
    values.findSome? Domain.suggestedBy? =
      (values.find? Json.isUsable).bind Domain.suggestedBy? := by
  induction values with
  | nil => rfl
  | cons value values ih =>
    have husable := value.isSome_suggestedBy?
    cases hvalue : Domain.suggestedBy? value with
    | none =>
      rw [hvalue] at husable
      rw [List.findSome?_cons_of_isNone (by simp [hvalue]),
        List.find?_cons_of_neg (by simp [← husable]), ih]
    | some domain =>
      rw [hvalue] at husable
      rw [List.findSome?_cons_of_isSome (by simp [hvalue]), List.find?_cons_of_pos husable.symm]
      rfl

theorem ids_infer (records : List Json) :
    (infer records).ids = (notedOf (records.flatMap Json.members)).map (·.1) := by
  rw [ids, infer, foldl_noteRecord, List.map_map]
  rfl

/-- The domain of a field is the one noted of its key, and string if none is. -/
theorem domain_of_mem_infer {records : List Json} {f : Field} (hf : f ∈ (infer records).fields) :
    f.label? = none ∧
      f.domain = ((firstUsable? records f.id).bind Domain.suggestedBy?).getD .string := by
  rw [infer, foldl_noteRecord] at hf
  obtain ⟨⟨id, domain⟩, hmem, rfl⟩ := List.mem_map.mp hf
  have hfind := find?_key_eq_some (·.1) nodup_map_fst_notedOf hmem
  have hnoted : notedDomain? (notedOf (records.flatMap Json.members)) id = domain :=
    congrArg (Option.bind · Prod.snd) hfind
  refine ⟨rfl, ?_⟩
  rw [firstUsable?, ← findSome?_suggestedBy?, ← notedDomain?_notedOf, hnoted]

/-- **The inferred fields are the keys of the records in the order of their first occurrence.** The
ids are distinct, and they are the keys that the records have, each at the place where the key first
occurs, record by record and key by key. The domain of a field is the one that the first value of
its key suggests, in the order of the records, that is neither null nor an object, and string if
there is no such value. In every record that has the key, the field is the record's own value of the
key, also when the id has dots. -/
theorem infer_first_occurrences (records : List Json) :
    (infer records).ids.Nodup ∧
    (∀ key, key ∈ (infer records).ids ↔ ∃ record ∈ records, key ∈ record.keys) ∧
    ((infer records).ids.Pairwise fun a b =>
      (records.flatMap Json.keys).idxOf a < (records.flatMap Json.keys).idxOf b) ∧
    (∀ f ∈ (infer records).fields, f.label? = none ∧
      match firstUsable? records f.id with
      | some value => Domain.suggestedBy? value = some f.domain
      | none => f.domain = .string) ∧
    ∀ record ∈ records, ∀ key ∈ record.keys, ∃ value, record.get? key = some value ∧
      (key, value) ∈ record.members ∧ record.fieldValue key = .ofJson value := by
  have hkeys : records.flatMap Json.keys = (records.flatMap Json.members).map (·.1) := by
    rw [List.map_flatMap]
    rfl
  refine ⟨?nodup, ?mem, ?order, ?domain, ?value⟩
  case nodup => exact ids_infer records ▸ nodup_map_fst_notedOf
  case mem =>
    intro key
    rw [ids_infer, mem_map_fst_notedOf, ← hkeys, List.mem_flatMap]
  case order =>
    rw [ids_infer, hkeys]
    exact pairwise_idxOf_notedOf
  case domain =>
    intro f hf
    obtain ⟨hlabel, hdomain⟩ := domain_of_mem_infer hf
    refine ⟨hlabel, ?_⟩
    cases hfirst : firstUsable? records f.id with
    | none =>
      rw [hfirst] at hdomain
      exact hdomain
    | some value =>
      have husable : value.isUsable = true := List.find?_some hfirst
      rw [← Json.isSome_suggestedBy?] at husable
      obtain ⟨domain, hsuggested⟩ := Option.isSome_iff_exists.mp husable
      rw [hfirst, Option.bind_some, hsuggested, Option.getD_some] at hdomain
      exact hsuggested.trans (congrArg some hdomain.symm)
  case value => exact fun record _ key hkey => Json.exists_fieldValue_of_mem_keys hkey

end Schema

end Tabular
