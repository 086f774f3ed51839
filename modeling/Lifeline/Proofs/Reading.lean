import Lifeline.Json.Record

namespace Lifeline

namespace Json

variable {names words : List String} {tag word : String}
  {fields before after : List (String × Json)} {j : Json}

theorem record?_obj (hnames : fields.map (·.1) = names) (hdistinct : hasRepeat names = false)
    (hbefore : ∀ f ∈ before, f.1 ∉ names) (hafter : ∀ f ∈ after, f.1 ∉ names) :
    (Json.obj (before ++ fields ++ after)).record? names = some fields := by
  have hown : fields.filter (fun f => names.contains f.1) = fields := by
    apply List.filter_eq_self.mpr
    intro f hf
    rw [← hnames]
    simpa using ⟨f.2, hf⟩
  have hother : ∀ {l : List (String × Json)}, (∀ f ∈ l, f.1 ∉ names) →
      l.filter (fun f => names.contains f.1) = [] := by
    intro l hl
    apply List.filter_eq_nil_iff.mpr
    simpa using hl
  simp only [record?, recordIn?, List.filter_append, hown, hother hbefore, hother hafter]
  simp [hnames, hdistinct]

theorem tagged?_obj (hbefore : ∀ f ∈ before, f.1 ≠ tag) (hafter : ∀ f ∈ after, f.1 ≠ tag) :
    (Json.obj (before ++ (tag, .str word) :: after)).tagged? tag words =
      some (word, .obj (before ++ after)) := by
  have hnone :
      ∀ {l : List (String × Json)}, (∀ f ∈ l, f.1 ≠ tag) → l.filter (fun f => f.1 == tag) = [] := by
    intro l hl
    apply List.filter_eq_nil_iff.mpr
    simpa using hl
  have hall :
      ∀ {l : List (String × Json)}, (∀ f ∈ l, f.1 ≠ tag) → l.filter (fun f => f.1 != tag) = l := by
    intro l hl
    apply List.filter_eq_self.mpr
    simpa using hl
  simp [tagged?, hnone hbefore, hnone hafter, hall hbefore, hall hafter, choice?]

theorem record?_own (hnames : fields.map (·.1) = names) (hdistinct : hasRepeat names = false) :
    (Json.obj fields).record? names = some fields := by
  have h := @record?_obj names fields [] [] hnames hdistinct (by simp) (by simp)
  simpa using h

@[simp] theorem record?_nil : (Json.obj []).record? [] = some [] := rfl

theorem tagged?_cons (h : ∀ f ∈ fields, f.1 ≠ tag) :
    (Json.obj ((tag, .str word) :: fields)).tagged? tag words = some (word, .obj fields) :=
  @tagged?_obj words tag word [] fields (by simp) h

@[simp] theorem str?_str (s : String) : str? (.str s) = some s := rfl

@[simp] theorem bool?_bool (b : Bool) : bool? (.bool b) = some b := rfl

theorem option?_of_ne_null {read : Json → Option α} (h : j ≠ .null) :
    option? read j = (read j).map some := by
  cases j <;> first | rfl | exact absurd rfl h

theorem option?_ofOption {read : Json → Option α} {write : α → Json}
    (hread : ∀ a, read (write a) = some a) (hwrite : ∀ a, write a ≠ .null) (o : Option α) :
    option? read (ofOption write o) = some o := by
  cases o with
  | none => rfl
  | some a => simp [ofOption, option?_of_ne_null (hwrite a), hread]

@[simp] theorem word32?_toNat (n : UInt32) : word32? (.num n.toNat) = some n := by
  simp [word32?, UInt32.toNat_lt_size]

theorem list?_cons {read : Json → Option α} {a : α} {items : List Json} {rest : List α}
    (hj : read j = some a) (hrest : list? read (.arr items) = some rest) :
    list? read (.arr (j :: items)) = some (a :: rest) := by
  simp only [list?, arr?, Option.bind_eq_bind, Option.bind_some] at hrest
  simp [list?, arr?, hj, hrest]

@[simp] theorem option?_str (o : Option String) : option? str? (ofOption .str o) = some o := by
  apply option?_ofOption <;> simp

theorem list?_map {read : Json → Option α} {write : α → Json} (hread : ∀ a, read (write a) = some a)
    (l : List α) : list? read (.arr (l.map write)) = some l := by
  induction l with
  | nil => rfl
  | cons a rest ih => exact list?_cons (hread a) ih

theorem obj_fits {room : Nat} (h : (Json.obj fields).height ≤ room) :
    ∃ inside, room = inside + 1 ∧ heightFields fields ≤ inside := by
  simp only [height] at h
  exact ⟨room - 1, by omega, by omega⟩

@[simp] theorem isUsable_str (s : String) : isUsable (.str s) = true := rfl

@[simp] theorem isUsable_bool (b : Bool) : isUsable (.bool b) = true := rfl

theorem isUsable_ofOption {write : α → Json} (h : ∀ a, (write a).isUsable = true) (o : Option α) :
    (ofOption write o).isUsable = true := by
  cases o with
  | none => rfl
  | some a => exact h a

@[simp] theorem isUsable_option_str (o : Option String) : (ofOption .str o).isUsable = true :=
  isUsable_ofOption isUsable_str o

theorem isUsable_map {write : α → Json} (h : ∀ a, (write a).isUsable = true) (l : List α) :
    (Json.arr (l.map write)).isUsable = true := by
  simp only [isUsable]
  induction l with
  | nil => rfl
  | cons a rest ih => simp [usableItems, h, ih]

theorem usableFields_filter {fields : List (String × Json)} (keep : String × Json → Bool)
    (h : usableFields fields = true) : usableFields (fields.filter keep) = true := by
  induction fields with
  | nil => rfl
  | cons f rest ih =>
    simp only [usableFields, Bool.and_eq_true] at h
    simp only [List.filter_cons]
    split
    · simp [usableFields, h.1, ih h.2]
    · exact ih h.2

end Json

namespace Record

variable {r : Record} {name key : String} {j : Json} {read : Json → Option α}

@[simp] theorem get?_cons :
    get? ((key, j) :: r) name = if name == key then some j else r.get? name := by
  simp only [get?, List.lookup_cons]
  cases name == key <;> rfl

@[simp] theorem required_eq : r.required name read = (r.get? name).bind read := rfl

@[simp] theorem defaulted_eq {value : α} :
    r.defaulted name read value = (r.get? name).elim (some value) read := by
  simp only [defaulted]
  cases r.get? name <;> rfl

@[simp] theorem optional_eq :
    r.optional name read = (r.get? name).elim (some none) (Json.option? read) :=
  defaulted_eq

end Record

end Lifeline
