import McpBridge.Floats
import McpBridge.Values

/-!
JSON text and what `encoding/json` makes of it in an `interface{}`. A value here is the text: its numbers and its
members are those of the text, in their order.
-/
namespace McpBridge.Values
open Floats List Any

/-- What to make of each kind of value, given the results for its parts. -/
structure Algebra (α : Type) where
  null : α
  bool : Bool → α
  number : Rat → α
  string : String → α
  array : List α → α
  object : List (String × α) → α

namespace Any
variable {α : Type}

mutual

def fold (alg : Algebra α) : Any → α
  | .null => alg.null
  | .bool b => alg.bool b
  | .number q => alg.number q
  | .string s => alg.string s
  | .array items => alg.array (foldItems alg items)
  | .object members => alg.object (foldMembers alg members)
termination_by structural v => v

def foldItems (alg : Algebra α) : List Any → List α
  | [] => []
  | v :: rest => fold alg v :: foldItems alg rest
termination_by structural items => items

def foldMembers (alg : Algebra α) : List (String × Any) → List (String × α)
  | [] => []
  | member :: rest => foldMember alg member :: foldMembers alg rest
termination_by structural members => members

def foldMember (alg : Algebra α) : String × Any → String × α
  | (name,v) => (name,fold alg v)
termination_by structural member => member

end

variable (alg : Algebra α) (items : List Any)

theorem foldItems_eq : foldItems alg items = items.map (fold alg) := by
  induction items with
  | nil => rfl
  | cons v rest ih => rw [foldItems,ih,map_cons]

variable (members : List (String × Any))

theorem foldMembers_eq : foldMembers alg members = members.map (Prod.map id (fold alg)) := by
  induction members with
  | nil => rfl
  | cons member rest ih =>
    obtain ⟨name,v⟩ := member
    rw [foldMembers,ih,map_cons]
    rfl

theorem fold_array : fold alg (.array items) = alg.array (items.map (fold alg)) := by
  rw [fold,foldItems_eq]

theorem fold_object : fold alg (.object members) = alg.object (members.map (Prod.map id (fold alg))) := by
  rw [fold,foldMembers_eq]

/-- Induction over the parts of a value. -/
@[elab_as_elim]
theorem parts_induction {motive : Any → Prop} (null : motive .null) (bool : ∀ b, motive (.bool b))
    (number : ∀ q, motive (.number q)) (string : ∀ s, motive (.string s))
    (array : ∀ items, (∀ v ∈ items, motive v) → motive (.array items))
    (object : ∀ members, (∀ member ∈ members, motive member.2) → motive (.object members)) (v : Any) : motive v := by
  refine @Any.rec motive (fun items => ∀ v ∈ items, motive v) (fun members => ∀ member ∈ members, motive member.2)
    (fun member => motive member.2) null bool number string array object ?_ ?_ ?_ ?_ (fun _ _ part => part) v
  · intro v absent
    cases absent
  · intro head tail first later v listed
    obtain rfl | tailed := mem_cons.mp listed
    · exact first
    · exact later v tailed
  · intro member absent
    cases absent
  · intro head tail first later member listed
    obtain rfl | tailed := mem_cons.mp listed
    · exact first
    · exact later member tailed

def collect (members : List (String × Any)) : List (String × Any) :=
  members.foldl (fun map member => insertMember member.1 member.2 map) []

def Ordered (members : List (String × Any)) : Prop := members.Pairwise fun a b => a.1 < b.1

theorem insertMember_map (f : Any → Any) (name : String) (v : Any) (members : List (String × Any)) :
    insertMember name (f v) (members.map (Prod.map id f)) = (insertMember name v members).map (Prod.map id f) := by
  induction members with
  | nil => rfl
  | cons member rest ih =>
    simp [insertMember]
    split
    next => rfl
    next =>
      split
      next => rfl
      next =>
        rw [map_cons,← ih]
        rfl

theorem collect_map (f : Any → Any) (members : List (String × Any)) :
    collect (members.map (Prod.map id f)) = (collect members).map (Prod.map id f) := by
  have general (map : List (String × Any)) :
      (members.map (Prod.map id f)).foldl (fun map member => insertMember member.1 member.2 map)
        (map.map (Prod.map id f)) =
      (members.foldl (fun map member => insertMember member.1 member.2 map) map).map (Prod.map id f) := by
    induction members generalizing map with
    | nil => rfl
    | cons member rest ih =>
      rw [map_cons,foldl_cons,foldl_cons,← ih,← insertMember_map]
      rfl
  exact general []

variable {v : Any} {name : String}

theorem mem_insertMember {members : List (String × Any)} {member : String × Any}
    (listed : member ∈ insertMember name v members) : member = (name,v) ∨ member ∈ members := by
  induction members with
  | nil => exact .inl (mem_singleton.mp listed)
  | cons head rest ih =>
    unfold insertMember at listed
    split at listed
    next =>
      obtain here | tailed := mem_cons.mp listed
      · exact .inl here
      · exact .inr (mem_cons_of_mem _ tailed)
    next =>
      split at listed
      next =>
        obtain here | tailed := mem_cons.mp listed
        · exact .inl here
        · exact .inr tailed
      next =>
        obtain rfl | tailed := mem_cons.mp listed
        · exact .inr (mem_cons_self ..)
        · obtain here | before := ih tailed
          · exact .inl here
          · exact .inr (mem_cons_of_mem _ before)

theorem insertMember_ordered {v : Any} {members : List (String × Any)} (ordered : Ordered members) :
    Ordered (insertMember name v members) := by
  induction members with
  | nil => exact pairwise_singleton ..
  | cons head rest ih =>
    obtain ⟨first,later⟩ := pairwise_cons.mp ordered
    unfold insertMember
    split
    next same =>
      subst same
      exact pairwise_cons.mpr ⟨first,later⟩
    next differs =>
      split
      next less =>
        refine pairwise_cons.mpr ⟨?_,ordered⟩
        intro member listed
        obtain rfl | tailed := mem_cons.mp listed
        · exact less
        · exact String.lt_trans less (first member tailed)
      next more =>
        refine pairwise_cons.mpr ⟨?_,ih later⟩
        intro member listed
        obtain rfl | before := mem_insertMember listed
        · exact Std.lt_of_le_of_ne (String.not_lt.mp more) (Ne.symm differs)
        · exact first member before

theorem insertMember_last {members : List (String × Any)}
    (above : ∀ member ∈ members, member.1 < name) : insertMember name v members = members ++ [(name,v)] := by
  induction members with
  | nil => rfl
  | cons head rest ih =>
    have below := above head (mem_cons_self ..)
    have differs : ¬ name = head.1 := by
      rintro rfl
      exact String.lt_irrefl _ below
    unfold insertMember
    rw [if_neg differs,if_neg (String.lt_asymm below),ih fun member listed => above member (mem_cons_of_mem _ listed)]
    rfl

theorem collect_of_ordered {members : List (String × Any)} (ordered : Ordered members) : collect members = members := by
  have general (map rest : List (String × Any)) (sorted : Ordered (map ++ rest)) :
      rest.foldl (fun map member => insertMember member.1 member.2 map) map = map ++ rest := by
    induction rest generalizing map with
    | nil => simp
    | cons member rest ih =>
      have above : ∀ other ∈ map, other.1 < member.1 :=
        fun other listed => (pairwise_append.mp sorted).2.2 other listed member (mem_cons_self ..)
      rw [foldl_cons,insertMember_last above,ih _ (by simpa using sorted)]
      simp
  exact general [] members ordered

theorem collect_spec : Ordered (collect members) ∧ ∀ member ∈ collect members, member ∈ members := by
  have general (map rest : List (String × Any)) (sorted : Ordered map) :
      Ordered (rest.foldl (fun map member => insertMember member.1 member.2 map) map) ∧
        ∀ member ∈ rest.foldl (fun map member => insertMember member.1 member.2 map) map,
          member ∈ map ∨ member ∈ rest := by
    induction rest generalizing map with
    | nil => exact ⟨sorted,fun _ listed => .inl listed⟩
    | cons head rest ih =>
      obtain ⟨ordered,from_⟩ := ih _ (@insertMember_ordered head.1 head.2 map sorted)
      refine ⟨ordered,fun member listed => ?_⟩
      obtain early | late := from_ member listed
      · obtain rfl | before := mem_insertMember early
        · exact .inr (mem_cons_self ..)
        · exact .inl before
      · exact .inr (mem_cons_of_mem _ late)
  obtain ⟨ordered,from_⟩ := general [] members Pairwise.nil
  exact ⟨ordered,fun member listed => (from_ member listed).resolve_left not_mem_nil⟩

/-! ### The meaning of a text and its numbers -/

def canonical : Any → Any :=
  fold ⟨.null,.bool,.number,.string,.array,fun members => .object (collect members)⟩

def mapNumbers (f : Rat → Rat) : Any → Any :=
  fold ⟨.null,.bool,fun q => .number (f q),.string,.array,.object⟩

def numbers : Any → List Rat :=
  fold ⟨[],fun _ => [],fun q => [q],fun _ => [],flatten,fun members => (members.map Prod.snd).flatten⟩

theorem canonical_array : canonical (.array items) = .array (items.map canonical) := fold_array ..

theorem canonical_object :
    canonical (.object members) = .object (collect (members.map (Prod.map id canonical))) := fold_object ..

variable (f : Rat → Rat)

theorem mapNumbers_array (items : List Any) :
    mapNumbers f (.array items) = .array (items.map (mapNumbers f)) := fold_array ..

theorem mapNumbers_object (members : List (String × Any)) :
    mapNumbers f (.object members) = .object (members.map (Prod.map id (mapNumbers f))) := fold_object ..

variable {q : Rat}

theorem mem_numbers_array {items : List Any} : q ∈ numbers (.array items) ↔ ∃ v ∈ items, q ∈ numbers v := by
  rw [numbers,fold_array]
  simp

theorem mem_numbers_object {members : List (String × Any)} :
    q ∈ numbers (.object members) ↔ ∃ member ∈ members, q ∈ numbers member.2 := by
  rw [numbers,fold_object]
  simp

theorem canonical_mapNumbers (v : Any) : canonical (mapNumbers f v) = mapNumbers f (canonical v) := by
  induction v using parts_induction with
  | null | bool | number | string => rfl
  | array items ih =>
    rw [mapNumbers_array,canonical_array,canonical_array,mapNumbers_array,map_map,map_map]
    exact congrArg array (map_congr_left ih)
  | object members ih =>
    have values : (members.map (Prod.map id (mapNumbers f))).map (Prod.map id canonical) =
        (members.map (Prod.map id canonical)).map (Prod.map id (mapNumbers f)) := by
      rw [map_map,map_map]
      refine map_congr_left fun member listed => ?_
      exact Prod.ext rfl (ih member listed)
    rw [mapNumbers_object,canonical_object,canonical_object,mapNumbers_object,values,collect_map]

theorem canonical_canonical (v : Any) : canonical (canonical v) = canonical v := by
  induction v using parts_induction with
  | null | bool | number | string => rfl
  | array items ih =>
    rw [canonical_array,canonical_array,map_map]
    exact congrArg array (map_congr_left ih)
  | object members ih =>
    have values : (members.map (Prod.map id canonical)).map (Prod.map id canonical) =
        members.map (Prod.map id canonical) := by
      rw [map_map]
      refine map_congr_left fun member listed => ?_
      exact Prod.ext rfl (ih member listed)
    rw [canonical_object,canonical_object,← collect_map,values,collect_of_ordered (collect_spec _).1]

theorem numbers_canonical (listed : q ∈ numbers (canonical v)) : q ∈ numbers v := by
  induction v using parts_induction with
  | null | bool | number | string => exact listed
  | array items ih =>
    rw [canonical_array] at listed
    obtain ⟨_,member,inner⟩ := mem_numbers_array.mp listed
    obtain ⟨v,item,rfl⟩ := mem_map.mp member
    exact mem_numbers_array.mpr ⟨v,item,ih v item inner⟩
  | object members ih =>
    rw [canonical_object] at listed
    obtain ⟨member,kept,inner⟩ := mem_numbers_object.mp listed
    obtain ⟨before,there,rfl⟩ := mem_map.mp ((collect_spec _).2 member kept)
    exact mem_numbers_object.mpr ⟨before,there,ih before there inner⟩

theorem mapNumbers_mapNumbers (g : Rat → Rat) (v : Any) : mapNumbers f (mapNumbers g v) = mapNumbers (f ∘ g) v := by
  induction v using parts_induction with
  | null | bool | number | string => rfl
  | array items ih =>
    rw [mapNumbers_array,mapNumbers_array,mapNumbers_array,map_map]
    exact congrArg array (map_congr_left ih)
  | object members ih =>
    rw [mapNumbers_object,mapNumbers_object,mapNumbers_object,map_map]
    exact congrArg object (map_congr_left fun member listed => Prod.ext rfl (ih member listed))

private theorem map_eq_self {β : Type} {f : β → β} {l : List β} : l.map f = l ↔ ∀ a ∈ l, f a = a := by
  have unchanged := map_inj_left (l := l) (f := f) (g := id)
  rwa [map_id] at unchanged

/-- A value stays the same exactly when all its numbers do. -/
theorem mapNumbers_eq_self {f : Rat → Rat} : mapNumbers f v = v ↔ ∀ q ∈ numbers v, f q = q := by
  induction v using parts_induction with
  | null | bool | string => exact ⟨fun _ _ absent => absurd absent not_mem_nil,fun _ => rfl⟩
  | number q =>
    constructor
    · intro same q' listed
      obtain rfl := mem_singleton.mp listed
      exact number.inj same
    · exact fun fixed => congrArg number (fixed q (mem_singleton_self q))
  | array items ih =>
    rw [mapNumbers_array,array.injEq]
    constructor
    · intro same q listed
      obtain ⟨v,item,inner⟩ := mem_numbers_array.mp listed
      exact (ih v item).mp (map_eq_self.mp same v item) q inner
    · intro fixed
      refine map_eq_self.mpr fun v item => (ih v item).mpr fun q inner => ?_
      exact fixed q (mem_numbers_array.mpr ⟨v,item,inner⟩)
  | object members ih =>
    rw [mapNumbers_object,object.injEq]
    constructor
    · intro same q listed
      obtain ⟨member,there,inner⟩ := mem_numbers_object.mp listed
      have kept := congrArg Prod.snd (map_eq_self.mp same member there)
      exact (ih member there).mp kept q inner
    · intro fixed
      refine map_eq_self.mpr fun member there => Prod.ext rfl ((ih member there).mpr fun q inner => ?_)
      exact fixed q (mem_numbers_object.mpr ⟨member,there,inner⟩)

end Any

/-! ### Decoding into an `interface{}` and encoding again -/

/-- The value of a number in an `interface{}`. -/
def readNumber (q : Rat) : Rat := (binary64.nearest q).getD 0

/-- How `json.Marshal` writes a float64. -/
def writeNumber (d : Rat) : Rat := binary64.shortest 17 d

def InRange (v : Any) : Prop := ∀ q ∈ v.numbers, (binary64.nearest q).isSome

instance (v : Any) : Decidable (InRange v) := inferInstanceAs (Decidable (∀ q ∈ v.numbers, _))

/-- The value that a text has in an `interface{}`. -/
def valueOf (v : Any) : Any := v.canonical.mapNumbers readNumber

/-- `json.Unmarshal` into an `interface{}`. The literal that its message quotes is left out. -/
def decodeInterface (v : Any) : Except String Any :=
  if InRange v then .ok (valueOf v) else .error "json: cannot unmarshal number into Go value of type float64"

/-- `json.Marshal` of a value in an `interface{}`. -/
def encodeInterface (w : Any) : Any := w.mapNumbers writeNumber

/-- Values are given by their text, whose numbers are read as float64s. -/
def Reading.text : Reading := ⟨decodeInterface,encodeInterface⟩

def Intact (v : Any) : Prop := InRange v ∧ ∀ q ∈ v.canonical.numbers, binary64.printed 17 q = some q

variable {v : Any}

theorem decodeInterface_eq_ok_iff {w : Any} : decodeInterface v = .ok w ↔ InRange v ∧ w = valueOf v := by
  unfold decodeInterface
  split
  next fits =>
    constructor
    · intro decoded
      cases decoded
      exact ⟨fits,rfl⟩
    · rintro ⟨-,rfl⟩
      rfl
  next large => exact ⟨nofun,fun both => absurd both.1 large⟩

theorem encode_same_iff (fits : InRange v) : (encodeInterface (valueOf v)).canonical = v.canonical ↔ Intact v := by
  unfold valueOf encodeInterface Intact
  rw [Any.canonical_mapNumbers,Any.canonical_mapNumbers,Any.canonical_canonical,Any.mapNumbers_mapNumbers,
    Any.mapNumbers_eq_self,and_iff_right fits]
  refine forall₂_congr fun q listed => ?_
  obtain ⟨d,read⟩ := Option.isSome_iff_exists.mp (fits q (Any.numbers_canonical listed))
  simp [Format.printed,read,readNumber,writeNumber]

@[simp] theorem valueOf_null : valueOf .null = .null := rfl

end McpBridge.Values
