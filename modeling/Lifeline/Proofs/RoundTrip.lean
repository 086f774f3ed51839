import Lifeline.Source.Encoding
import Lifeline.Proofs.Reading

/-! Reading a translation unit gives back what was written. The induction follows the code; the
reader's room is never short, since what stands inside a value is lower than the value. -/

namespace Lifeline

@[simp] theorem Json.word64?_toJson (id : DeclId) : Json.word64? id.toJson = some id := by
  simp [Json.word64?, DeclId.toJson, UInt64.toNat_lt_size]

@[simp] theorem Json.option?_declId (o : Option DeclId) :
    Json.option? Json.word64? (Json.ofOption DeclId.toJson o) = some o :=
  Json.option?_ofOption Json.word64?_toJson (by simp [DeclId.toJson]) o

@[simp] theorem Path.ofJson?_toJson (p : Path) : Path.ofJson? p.toJson = some p := rfl

@[simp] theorem Location.ofJson?_toJson (l : Location) : Location.ofJson? l.toJson = some l := by
  simp [Location.toJson, Location.ofJson?, Json.record?_own, Json.hasRepeat]

@[simp] theorem Json.option?_location (o : Option Location) :
    Json.option? Location.ofJson? (Json.ofOption Location.toJson o) = some o :=
  Json.option?_ofOption Location.ofJson?_toJson (by simp [Location.toJson]) o

@[simp] theorem Json.list?_ofStrings (l : List String) :
    Json.list? Json.str? (.ofStrings l) = some l :=
  Json.list?_map Json.str?_str l

@[simp] theorem Dispatch.ofJson?_toJson (d : Dispatch) : Dispatch.ofJson? d.toJson = some d := by
  cases d <;> rfl

theorem Expr.toJson_ne_null (e : Expr) : e.toJson ≠ .null := by
  cases e <;> simp [Expr.toJson]

theorem Stmt.toJson_ne_null (s : Stmt) : s.toJson ≠ .null := by
  cases s <;> simp [Stmt.toJson]

mutual

/-- Reading what was written gives it back, given room for all that stands inside. -/
theorem Expr.decode_toJson :
    (e : Expr) → {room : Nat} → e.toJson.height ≤ room → Expr.decode room e.toJson = some e
  | .call callee object args location comment, room, h => by
    simp only [Expr.toJson] at h ⊢
    obtain ⟨room, rfl, hfields⟩ := Json.obj_fits h
    simp only [Json.heightFields, Nat.max_le] at hfields
    simp [Expr.decode, Json.tagged?_cons, Json.record?_own, Json.hasRepeat,
      callee.decode_toJson hfields.2.1,
      Expr.decode_toJsonOption object hfields.2.2.1, Expr.decode_toJsonList args hfields.2.2.2.1]
  | .construct cls ctor args location comment, room, h => by
    simp only [Expr.toJson] at h ⊢
    obtain ⟨room, rfl, hfields⟩ := Json.obj_fits h
    simp only [Json.heightFields, Nat.max_le] at hfields
    simp [Expr.decode, Json.tagged?_cons, Json.record?_own, Json.hasRepeat,
      Expr.decode_toJsonList args hfields.2.2.2.1]
  | .lambda operator location, room, h => by
    simp only [Expr.toJson] at h ⊢
    obtain ⟨room, rfl, hfields⟩ := Json.obj_fits h
    simp [Expr.decode, Json.tagged?_cons, Json.record?_own, Json.hasRepeat]
  | .coAwait operand awaiter location, room, h => by
    simp only [Expr.toJson] at h ⊢
    obtain ⟨room, rfl, hfields⟩ := Json.obj_fits h
    simp only [Json.heightFields, Nat.max_le] at hfields
    simp [Expr.decode, Json.tagged?_cons, Json.record?_own, Json.hasRepeat,
      operand.decode_toJson hfields.2.1]
  | .coYield operand location, room, h => by
    simp only [Expr.toJson] at h ⊢
    obtain ⟨room, rfl, hfields⟩ := Json.obj_fits h
    simp only [Json.heightFields, Nat.max_le] at hfields
    simp [Expr.decode, Json.tagged?_cons, Json.record?_own, Json.hasRepeat,
      operand.decode_toJson hfields.2.1]
  | .async launcher callable args location, room, h => by
    simp only [Expr.toJson] at h ⊢
    obtain ⟨room, rfl, hfields⟩ := Json.obj_fits h
    simp only [Json.heightFields, Nat.max_le] at hfields
    simp [Expr.decode, Json.tagged?_cons, Json.record?_own, Json.hasRepeat,
      callable.decode_toJson hfields.2.2.1, Expr.decode_toJsonList args hfields.2.2.2.1]
  | .declRef decl, room, h => by
    simp only [Expr.toJson] at h ⊢
    obtain ⟨room, rfl, hfields⟩ := Json.obj_fits h
    simp [Expr.decode, Json.tagged?_cons, Json.record?_own, Json.hasRepeat]
  | .var name, room, h => by
    simp only [Expr.toJson] at h ⊢
    obtain ⟨room, rfl, hfields⟩ := Json.obj_fits h
    simp [Expr.decode, Json.tagged?_cons, Json.record?_own, Json.hasRepeat]
  | .assign target value, room, h => by
    simp only [Expr.toJson] at h ⊢
    obtain ⟨room, rfl, hfields⟩ := Json.obj_fits h
    simp only [Json.heightFields, Nat.max_le] at hfields
    simp [Expr.decode, Json.tagged?_cons, Json.record?_own, Json.hasRepeat,
      value.decode_toJson hfields.2.2.1]
  | .conditional cond yes no text, room, h => by
    simp only [Expr.toJson] at h ⊢
    obtain ⟨room, rfl, hfields⟩ := Json.obj_fits h
    simp only [Json.heightFields, Nat.max_le] at hfields
    simp [Expr.decode, Json.tagged?_cons, Json.record?_own, Json.hasRepeat,
      cond.decode_toJson hfields.2.1,
      yes.decode_toJson hfields.2.2.1, no.decode_toJson hfields.2.2.2.1]
  | .other children, room, h => by
    simp only [Expr.toJson] at h ⊢
    obtain ⟨room, rfl, hfields⟩ := Json.obj_fits h
    simp only [Json.heightFields, Nat.max_le] at hfields
    simp [Expr.decode, Json.tagged?_cons, Json.record?_own, Json.hasRepeat,
      Expr.decode_toJsonList children hfields.2.1]

theorem Expr.decode_toJsonList :
    (es : List Expr) → {room : Nat} → (Json.arr (Expr.toJsonList es)).height ≤ room →
    Json.list? (Expr.decode room) (.arr (Expr.toJsonList es)) = some es
  | [], _, _ => rfl
  | e :: rest, _, h => by
    simp only [Expr.toJsonList, Json.height, Json.heightItems] at h ⊢
    apply Json.list?_cons
    · exact e.decode_toJson (by omega)
    · exact Expr.decode_toJsonList rest (by simp only [Json.height]; omega)

theorem Expr.decode_toJsonOption :
    (o : Option Expr) → {room : Nat} → (Expr.toJsonOption o).height ≤ room →
    Json.option? (Expr.decode room) (Expr.toJsonOption o) = some o
  | none, _, _ => rfl
  | some e, _, h => by
    simp only [Expr.toJsonOption] at h ⊢
    rw [Json.option?_of_ne_null e.toJson_ne_null, e.decode_toJson h]
    rfl

theorem Callee.decode_toJson : (c : Callee) → {room : Nat} → c.toJson.height ≤ room →
    Callee.decode room c.toJson = some c
  | .decl id templateArgs dispatch, room, h => by
    simp only [Callee.toJson] at h ⊢
    obtain ⟨room, rfl, hfields⟩ := Json.obj_fits h
    simp [Callee.decode, Json.tagged?_cons, Json.record?_own, Json.hasRepeat]
  | .var name, room, h => by
    simp only [Callee.toJson] at h ⊢
    obtain ⟨room, rfl, hfields⟩ := Json.obj_fits h
    simp [Callee.decode, Json.tagged?_cons, Json.record?_own, Json.hasRepeat]
  | .expr e, room, h => by
    simp only [Callee.toJson] at h ⊢
    obtain ⟨room, rfl, hfields⟩ := Json.obj_fits h
    simp only [Json.heightFields, Nat.max_le] at hfields
    simp [Callee.decode, Json.tagged?_cons, Json.record?_own, Json.hasRepeat,
      e.decode_toJson hfields.2.1]
  | .unresolved name template, room, h => by
    simp only [Callee.toJson] at h ⊢
    obtain ⟨room, rfl, hfields⟩ := Json.obj_fits h
    simp [Callee.decode, Json.tagged?_cons, Json.record?_own, Json.hasRepeat]

end

mutual

theorem Stmt.decode_toJson :
    (s : Stmt) → {room : Nat} → s.toJson.height ≤ room → Stmt.decode room s.toJson = some s
  | .block body, room, h => by
    simp only [Stmt.toJson] at h ⊢
    obtain ⟨room, rfl, hfields⟩ := Json.obj_fits h
    simp only [Json.heightFields, Nat.max_le] at hfields
    simp [Stmt.decode, Json.tagged?_cons, Json.record?_own, Json.hasRepeat,
      Stmt.decode_toJsonList body hfields.2.1]
  | .expr e, room, h => by
    simp only [Stmt.toJson] at h ⊢
    obtain ⟨room, rfl, hfields⟩ := Json.obj_fits h
    simp only [Json.heightFields, Nat.max_le] at hfields
    simp [Stmt.decode, Json.tagged?_cons, Json.record?_own, Json.hasRepeat,
      e.decode_toJson hfields.2.1]
  | .declare name value, room, h => by
    simp only [Stmt.toJson] at h ⊢
    obtain ⟨room, rfl, hfields⟩ := Json.obj_fits h
    simp only [Json.heightFields, Nat.max_le] at hfields
    simp [Stmt.decode, Json.tagged?_cons, Json.record?_own, Json.hasRepeat,
      Expr.decode_toJsonOption value hfields.2.2.1]
  | .ifElse cond yes no atCompileTime text, room, h => by
    simp only [Stmt.toJson] at h ⊢
    obtain ⟨room, rfl, hfields⟩ := Json.obj_fits h
    simp only [Json.heightFields, Nat.max_le] at hfields
    simp [Stmt.decode, Json.tagged?_cons, Json.record?_own, Json.hasRepeat,
      cond.decode_toJson hfields.2.1,
      yes.decode_toJson hfields.2.2.1, Stmt.decode_toJsonOption no hfields.2.2.2.1]
  | .switch cond cases text, room, h => by
    simp only [Stmt.toJson] at h ⊢
    obtain ⟨room, rfl, hfields⟩ := Json.obj_fits h
    simp only [Json.heightFields, Nat.max_le] at hfields
    simp [Stmt.decode, Json.tagged?_cons, Json.record?_own, Json.hasRepeat,
      cond.decode_toJson hfields.2.1, Case.decode_toJsonList cases hfields.2.2.1]
  | .whileLoop cond body text, room, h => by
    simp only [Stmt.toJson] at h ⊢
    obtain ⟨room, rfl, hfields⟩ := Json.obj_fits h
    simp only [Json.heightFields, Nat.max_le] at hfields
    simp [Stmt.decode, Json.tagged?_cons, Json.record?_own, Json.hasRepeat,
      cond.decode_toJson hfields.2.1, body.decode_toJson hfields.2.2.1]
  | .doLoop body cond text, room, h => by
    simp only [Stmt.toJson] at h ⊢
    obtain ⟨room, rfl, hfields⟩ := Json.obj_fits h
    simp only [Json.heightFields, Nat.max_le] at hfields
    simp [Stmt.decode, Json.tagged?_cons, Json.record?_own, Json.hasRepeat,
      body.decode_toJson hfields.2.1, cond.decode_toJson hfields.2.2.1]
  | .forLoop first cond step body text, room, h => by
    simp only [Stmt.toJson] at h ⊢
    obtain ⟨room, rfl, hfields⟩ := Json.obj_fits h
    simp only [Json.heightFields, Nat.max_le] at hfields
    simp [Stmt.decode, Json.tagged?_cons, Json.record?_own, Json.hasRepeat,
      Stmt.decode_toJsonOption first hfields.2.1, Expr.decode_toJsonOption cond hfields.2.2.1,
      Expr.decode_toJsonOption step hfields.2.2.2.1, body.decode_toJson hfields.2.2.2.2.1]
  | .forEach range body text, room, h => by
    simp only [Stmt.toJson] at h ⊢
    obtain ⟨room, rfl, hfields⟩ := Json.obj_fits h
    simp only [Json.heightFields, Nat.max_le] at hfields
    simp [Stmt.decode, Json.tagged?_cons, Json.record?_own, Json.hasRepeat,
      range.decode_toJson hfields.2.1, body.decode_toJson hfields.2.2.1]
  | .tryCatch body handlers, room, h => by
    simp only [Stmt.toJson] at h ⊢
    obtain ⟨room, rfl, hfields⟩ := Json.obj_fits h
    simp only [Json.heightFields, Nat.max_le] at hfields
    simp [Stmt.decode, Json.tagged?_cons, Json.record?_own, Json.hasRepeat,
      body.decode_toJson hfields.2.1, Handler.decode_toJsonList handlers hfields.2.2.1]
  | .ret value, room, h => by
    simp only [Stmt.toJson] at h ⊢
    obtain ⟨room, rfl, hfields⟩ := Json.obj_fits h
    simp only [Json.heightFields, Nat.max_le] at hfields
    simp [Stmt.decode, Json.tagged?_cons, Json.record?_own, Json.hasRepeat,
      Expr.decode_toJsonOption value hfields.2.1]
  | .coReturn value, room, h => by
    simp only [Stmt.toJson] at h ⊢
    obtain ⟨room, rfl, hfields⟩ := Json.obj_fits h
    simp only [Json.heightFields, Nat.max_le] at hfields
    simp [Stmt.decode, Json.tagged?_cons, Json.record?_own, Json.hasRepeat,
      Expr.decode_toJsonOption value hfields.2.1]
  | .breakOut, room, h => by
    simp only [Stmt.toJson] at h ⊢
    obtain ⟨room, rfl, hfields⟩ := Json.obj_fits h
    simp [Stmt.decode, Json.tagged?_cons]
  | .continueOn, room, h => by
    simp only [Stmt.toJson] at h ⊢
    obtain ⟨room, rfl, hfields⟩ := Json.obj_fits h
    simp [Stmt.decode, Json.tagged?_cons]
  | .skip, room, h => by
    simp only [Stmt.toJson] at h ⊢
    obtain ⟨room, rfl, hfields⟩ := Json.obj_fits h
    simp [Stmt.decode, Json.tagged?_cons]

theorem Stmt.decode_toJsonList :
    (ss : List Stmt) → {room : Nat} → (Json.arr (Stmt.toJsonList ss)).height ≤ room →
    Json.list? (Stmt.decode room) (.arr (Stmt.toJsonList ss)) = some ss
  | [], _, _ => rfl
  | s :: rest, _, h => by
    simp only [Stmt.toJsonList, Json.height, Json.heightItems] at h ⊢
    apply Json.list?_cons
    · exact s.decode_toJson (by omega)
    · exact Stmt.decode_toJsonList rest (by simp only [Json.height]; omega)

theorem Stmt.decode_toJsonOption :
    (o : Option Stmt) → {room : Nat} → (Stmt.toJsonOption o).height ≤ room →
    Json.option? (Stmt.decode room) (Stmt.toJsonOption o) = some o
  | none, _, _ => rfl
  | some s, _, h => by
    simp only [Stmt.toJsonOption] at h ⊢
    rw [Json.option?_of_ne_null s.toJson_ne_null, s.decode_toJson h]
    rfl

theorem Case.decode_toJsonList :
    (cs : List Case) → {room : Nat} → (Json.arr (Case.toJsonList cs)).height ≤ room →
    Json.list? (Case.decodeWith (Stmt.decode room)) (.arr (Case.toJsonList cs)) = some cs
  | [], _, _ => rfl
  | ⟨label, body⟩ :: rest, room, h => by
    simp only [Case.toJsonList, Json.height, Json.heightItems, Json.heightFields] at h ⊢
    apply Json.list?_cons
    · have hbody : (Json.arr (Stmt.toJsonList body)).height ≤ room := by
        simp only [Json.height]
        omega
      simp [Case.decodeWith, Json.record?_own, Json.hasRepeat, Stmt.decode_toJsonList body hbody]
    · exact Case.decode_toJsonList rest (by simp only [Json.height]; omega)

theorem Handler.decode_toJsonList : (hs : List Handler) → {room : Nat} →
    (Json.arr (Handler.toJsonList hs)).height ≤ room →
    Json.list? (Handler.decodeWith (Stmt.decode room)) (.arr (Handler.toJsonList hs)) = some hs
  | [], _, _ => rfl
  | ⟨exception, body⟩ :: rest, room, h => by
    simp only [Handler.toJsonList, Json.height, Json.heightItems, Json.heightFields] at h ⊢
    apply Json.list?_cons
    · have hbody : body.toJson.height ≤ room := by omega
      simp [Handler.decodeWith, Json.record?_own, Json.hasRepeat, body.decode_toJson hbody]
    · exact Handler.decode_toJsonList rest (by simp only [Json.height]; omega)

end

@[simp] theorem Json.isUsable_declId (id : DeclId) : id.toJson.isUsable = true := rfl

@[simp] theorem Json.isUsable_option_declId (o : Option DeclId) :
    (Json.ofOption DeclId.toJson o).isUsable = true :=
  Json.isUsable_ofOption Json.isUsable_declId o

@[simp] theorem Json.isUsable_option_location (o : Option Location) :
    (Json.ofOption Location.toJson o).isUsable = true :=
  Json.isUsable_ofOption (fun _ => rfl) o

@[simp] theorem Json.isUsable_ofStrings (l : List String) : (Json.ofStrings l).isUsable = true :=
  Json.isUsable_map Json.isUsable_str l

@[simp] theorem Dispatch.isUsable_toJson (d : Dispatch) : d.toJson.isUsable = true := by
  cases d <;> rfl

mutual

theorem Expr.isUsable_toJson : (e : Expr) → e.toJson.isUsable = true
  | .call callee object args _ _ => by
    simp [Expr.toJson, Json.isUsable, Json.usableFields, callee.isUsable_toJson,
      Expr.isUsable_toJsonOption object, Expr.usableItems_toJsonList args]
  | .construct _ _ args _ _ => by
    simp [Expr.toJson, Json.isUsable, Json.usableFields, Expr.usableItems_toJsonList args]
  | .lambda _ _ => by
    simp [Expr.toJson, Json.isUsable, Json.usableFields]
  | .coAwait operand _ _ => by
    simp [Expr.toJson, Json.isUsable, Json.usableFields, operand.isUsable_toJson]
  | .coYield operand _ => by
    simp [Expr.toJson, Json.isUsable, Json.usableFields, operand.isUsable_toJson]
  | .async _ callable args _ => by
    simp [Expr.toJson, Json.isUsable, Json.usableFields, callable.isUsable_toJson,
      Expr.usableItems_toJsonList args]
  | .declRef _ => by
    simp [Expr.toJson, Json.isUsable, Json.usableFields]
  | .var _ => by
    simp [Expr.toJson, Json.isUsable, Json.usableFields]
  | .assign _ value => by
    simp [Expr.toJson, Json.isUsable, Json.usableFields, value.isUsable_toJson]
  | .conditional cond yes no _ => by
    simp [Expr.toJson, Json.isUsable, Json.usableFields, cond.isUsable_toJson, yes.isUsable_toJson,
      no.isUsable_toJson]
  | .other children => by
    simp [Expr.toJson, Json.isUsable, Json.usableFields, Expr.usableItems_toJsonList children]

theorem Expr.usableItems_toJsonList :
    (es : List Expr) → Json.usableItems (Expr.toJsonList es) = true
  | [] => rfl
  | e :: rest => by
    simp [Expr.toJsonList, Json.usableItems, e.isUsable_toJson, Expr.usableItems_toJsonList rest]

theorem Expr.isUsable_toJsonOption : (o : Option Expr) → (Expr.toJsonOption o).isUsable = true
  | none => rfl
  | some e => by
    simp [Expr.toJsonOption, e.isUsable_toJson]

theorem Callee.isUsable_toJson : (c : Callee) → c.toJson.isUsable = true
  | .decl _ _ _ => by
    simp [Callee.toJson, Json.isUsable, Json.usableFields]
  | .var _ => by
    simp [Callee.toJson, Json.isUsable, Json.usableFields]
  | .expr e => by
    simp [Callee.toJson, Json.isUsable, Json.usableFields, e.isUsable_toJson]
  | .unresolved _ _ => by
    simp [Callee.toJson, Json.isUsable, Json.usableFields]

end

mutual

theorem Stmt.isUsable_toJson : (s : Stmt) → s.toJson.isUsable = true
  | .block body => by
    simp [Stmt.toJson, Json.isUsable, Json.usableFields, Stmt.usableItems_toJsonList body]
  | .expr e => by
    simp [Stmt.toJson, Json.isUsable, Json.usableFields, e.isUsable_toJson]
  | .declare _ value => by
    simp [Stmt.toJson, Json.isUsable, Json.usableFields, Expr.isUsable_toJsonOption value]
  | .ifElse cond yes no _ _ => by
    simp [Stmt.toJson, Json.isUsable, Json.usableFields, cond.isUsable_toJson, yes.isUsable_toJson,
      Stmt.isUsable_toJsonOption no]
  | .switch cond cases _ => by
    simp [Stmt.toJson, Json.isUsable, Json.usableFields, cond.isUsable_toJson,
      Case.usableItems_toJsonList cases]
  | .whileLoop cond body _ => by
    simp [Stmt.toJson, Json.isUsable, Json.usableFields, cond.isUsable_toJson, body.isUsable_toJson]
  | .doLoop body cond _ => by
    simp [Stmt.toJson, Json.isUsable, Json.usableFields, body.isUsable_toJson, cond.isUsable_toJson]
  | .forLoop first cond step body _ => by
    simp [Stmt.toJson, Json.isUsable, Json.usableFields, Stmt.isUsable_toJsonOption first,
      Expr.isUsable_toJsonOption cond, Expr.isUsable_toJsonOption step, body.isUsable_toJson]
  | .forEach range body _ => by
    simp [Stmt.toJson, Json.isUsable, Json.usableFields,
      range.isUsable_toJson, body.isUsable_toJson]
  | .tryCatch body handlers => by
    simp [Stmt.toJson, Json.isUsable, Json.usableFields, body.isUsable_toJson,
      Handler.usableItems_toJsonList handlers]
  | .ret value => by
    simp [Stmt.toJson, Json.isUsable, Json.usableFields, Expr.isUsable_toJsonOption value]
  | .coReturn value => by
    simp [Stmt.toJson, Json.isUsable, Json.usableFields, Expr.isUsable_toJsonOption value]
  | .breakOut => rfl
  | .continueOn => rfl
  | .skip => rfl

theorem Stmt.usableItems_toJsonList :
    (ss : List Stmt) → Json.usableItems (Stmt.toJsonList ss) = true
  | [] => rfl
  | s :: rest => by
    simp [Stmt.toJsonList, Json.usableItems, s.isUsable_toJson, Stmt.usableItems_toJsonList rest]

theorem Stmt.isUsable_toJsonOption : (o : Option Stmt) → (Stmt.toJsonOption o).isUsable = true
  | none => rfl
  | some s => by
    simp [Stmt.toJsonOption, s.isUsable_toJson]

theorem Case.usableItems_toJsonList :
    (cs : List Case) → Json.usableItems (Case.toJsonList cs) = true
  | [] => rfl
  | ⟨_, body⟩ :: rest => by
    simp [Case.toJsonList, Json.usableItems, Json.isUsable, Json.usableFields,
      Stmt.usableItems_toJsonList body, Case.usableItems_toJsonList rest]

theorem Handler.usableItems_toJsonList :
    (hs : List Handler) → Json.usableItems (Handler.toJsonList hs) = true
  | [] => rfl
  | ⟨_, body⟩ :: rest => by
    simp [Handler.toJsonList, Json.usableItems, Json.isUsable,
      Json.usableFields, body.isUsable_toJson, Handler.usableItems_toJsonList rest]

end

theorem Stmt.option?_ofJson (o : Option Stmt) :
    Json.option? Stmt.ofJson? (Stmt.toJsonOption o) = some o := by
  cases o with
  | none => rfl
  | some s =>
    simp only [Stmt.toJsonOption]
    rw [Json.option?_of_ne_null s.toJson_ne_null, Stmt.ofJson?, s.decode_toJson (Nat.le_refl _)]
    rfl

@[simp] theorem Param.ofJson?_toJson (p : Param) : Param.ofJson? p.toJson = some p := by
  simp [Param.toJson, Param.ofJson?, Json.record?_own, Json.hasRepeat]

section

variable (before : List (String × Json))

theorem RecordInfo.ofJson?_fields (r : RecordInfo) (h : ∀ f ∈ before, f.1 ∉ r.fields.map (·.1)) :
    RecordInfo.ofJson? (.obj (before ++ r.fields)) = some r := by
  have hrecord := @Json.record?_obj _ r.fields before [] rfl rfl h (by simp)
  rw [List.append_nil] at hrecord
  simp only [RecordInfo.fields, List.map_cons, List.map_nil] at hrecord
  simp [RecordInfo.ofJson?, RecordInfo.fields, hrecord]

theorem Function.ofJson?_fields (f : Function) (h : ∀ g ∈ before, g.1 ∉ f.fields.map (·.1)) :
    Function.ofJson? (.obj (before ++ f.fields)) = some f := by
  have hrecord := @Json.record?_obj _ f.fields before [] rfl rfl h (by simp)
  rw [List.append_nil] at hrecord
  simp only [Function.fields, List.map_cons, List.map_nil] at hrecord
  simp [Function.ofJson?, Function.fields, hrecord,
    Json.list?_map Param.ofJson?_toJson, Stmt.option?_ofJson]

end

theorem RecordInfo.usable_fields (r : RecordInfo) : Json.usableFields r.fields = true := by
  simp [fields, Json.usableFields]

theorem Function.usable_fields (f : Function) : Json.usableFields f.fields = true := by
  have hparams : (Json.arr (f.params.map Param.toJson)).isUsable = true :=
    Json.isUsable_map (fun _ => rfl) f.params
  simp [fields, Json.usableFields, Stmt.isUsable_toJsonOption, hparams]

namespace Decl

def ownFields (d : Decl) : List (String × Json) :=
  [("id", d.id.toJson), ("name", .str d.name), ("namespace", .str d.namespaceName),
    ("location", .ofOption Location.toJson d.location),
    ("template_args", .ofStrings d.templateArgs),
    ("instantiated_from", .ofOption DeclId.toJson d.instantiatedFrom),
    ("annotations", .ofStrings d.annotations)]

theorem ofJson?_of_kind (d : Decl) {fields : List (String × Json)}
    (hfields : ∀ f ∈ fields, f.1 ∉ commonFields) (husable : Json.usableFields fields = true)
    (hkind : DeclKind.ofJson? (.obj (d.ownFields ++ fields)) = some d.kind) :
    Decl.ofJson? (.obj (d.ownFields ++ fields)) = some d := by
  have hrecord := @Json.record?_obj _ d.ownFields [] fields rfl rfl (by simp) hfields
  rw [List.nil_append] at hrecord
  have hnames : d.ownFields.map (·.1) = commonFields := rfl
  rw [hnames] at hrecord
  have hall : Json.usableFields (d.ownFields ++ fields) = true := by
    simp [ownFields, Json.usableFields, husable]
  simp only [Decl.ofJson?, hrecord, Json.usableFields_filter _ hall, hkind,
    Option.bind_eq_bind, Option.bind_some]
  simp [ownFields]

theorem ofJson?_record (d : Decl) {r : RecordInfo} (hd : d.kind = .record r) :
    Decl.ofJson? (.obj (d.ownFields ++ ("kind", .str "record") :: r.fields)) = some d := by
  apply d.ofJson?_of_kind
  · simp [RecordInfo.fields, commonFields]
  · simp [Json.usableFields, r.usable_fields]
  · have htagged := @Json.tagged?_obj ["record", "function"] "kind" "record" d.ownFields r.fields
      (by simp [ownFields]) (by simp [RecordInfo.fields])
    have hfields := r.ofJson?_fields d.ownFields (by simp [ownFields, RecordInfo.fields])
    simp [DeclKind.ofJson?, htagged, hfields, hd]

theorem ofJson?_function (d : Decl) {f : Function} (hd : d.kind = .function f) {word : String}
    (hword : word = "function" ∨ word = "method") :
    Decl.ofJson? (.obj (d.ownFields ++ ("kind", .str word) :: f.fields)) = some d := by
  apply d.ofJson?_of_kind
  · simp [Function.fields, commonFields]
  · simp [Json.usableFields, f.usable_fields]
  · have htagged := @Json.tagged?_obj ["record", "function"] "kind" word d.ownFields f.fields
      (by simp [ownFields]) (by simp [Function.fields])
    have hfields := f.ofJson?_fields d.ownFields (by simp [ownFields, Function.fields])
    rcases hword with rfl | rfl <;> simp [DeclKind.ofJson?, htagged, hfields, hd]

theorem ofJson?_toJson (d : Decl) : Decl.ofJson? d.toJson = some d := by
  cases hd : d.kind with
  | record r =>
    rw [← d.ofJson?_record hd]
    simp [Decl.toJson, hd, DeclKind.fields, ownFields]
  | function f =>
    rw [← d.ofJson?_function hd (.inl rfl)]
    simp [Decl.toJson, hd, DeclKind.fields, ownFields]

end Decl

namespace TranslationUnit

theorem ofJson?_toJson (u : TranslationUnit) : ofJson? u.toJson = some u := by
  simp [toJson, ofJson?, Json.record?_own, Json.hasRepeat, Json.list?_map Decl.ofJson?_toJson]

/-- Every unit is read back as it was written. So a unit that was read from any other spelling of
it, once written, is read as the same unit. -/
theorem written_reads_back :
    (∀ u : TranslationUnit, ofJson? u.toJson = some u) ∧
      ∀ (j : Json) (u : TranslationUnit), ofJson? j = some u → ofJson? u.toJson = ofJson? j := by
  refine ⟨ofJson?_toJson, ?_⟩
  intro j u hj
  rw [hj]
  exact u.ofJson?_toJson

end TranslationUnit

namespace Sample

def sparse : Json :=
  .arr [.str "größe.cc", .arr [
    .obj [("kind", .str "method"), ("colour", .null), ("id", .num 18446744073709551615),
      ("location", .arr [.str "größe.cc", .num 4294967295]),
      ("body", .obj [("kind", .str "compound"), ("body", .arr [.obj [("kind", .str "return")]])])]]]

def sparseUnit : TranslationUnit where
  file := ⟨"größe.cc"⟩
  decls := [{
    id := 18446744073709551615
    name := ""
    namespaceName := ""
    location := some ⟨⟨"größe.cc"⟩, 4294967295, 0⟩
    templateArgs := []
    instantiatedFrom := none
    annotations := []
    kind := .function {
      owner := none, params := [], returnType := "void", isStatic := false, isConst := false,
      isVirtual := false,
      isConstructor := false, isDestructor := false, isOperator := false, isCoroutine := false,
      body := some (.block [.ret none]) } }]

end Sample

theorem TranslationUnit.written_reads_back_sample : ofJson? Sample.sparse = some Sample.sparseUnit ∧
    ofJson? Sample.sparseUnit.toJson = ofJson? Sample.sparse :=
  ⟨rfl, written_reads_back.2 Sample.sparse Sample.sparseUnit rfl⟩

end Lifeline
