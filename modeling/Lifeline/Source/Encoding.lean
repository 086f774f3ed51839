import Lifeline.Source.Decl

/-! Translation units as value trees. Writing gives every field; reading takes the forms of
`Json.record?` and `Json.tagged?`, and fills in what may be left out. -/

namespace Lifeline

open Json (ofOption)

def DeclId.toJson (id : DeclId) : Json :=
  .num id.toNat

def Json.ofStrings (l : List String) : Json :=
  .arr (l.map .str)

def Dispatch.toJson : Dispatch → Json
  | .static => .str "static"
  | .virtual => .str "virtual"

def Dispatch.manner : Json.Manner where
  extraItems := false
  behindWord
    | .null => true
    | .obj [] => true
    | _ => false

def Dispatch.ofJson? (j : Json) : Option Dispatch :=
  match j.wordIn? manner with
  | some "static" => some .static
  | some "virtual" => some .virtual
  | _ => none

mutual

def Stmt.toJson : Stmt → Json
  | .block body => .obj [("kind", .str "compound"), ("body", .arr (Stmt.toJsonList body))]
  | .expr e => .obj [("kind", .str "expr"), ("expr", e.toJson)]
  | .declare name value =>
    .obj [("kind", .str "var_decl"), ("name", .str name), ("init", Expr.toJsonOption value)]
  | .ifElse cond yes no atCompileTime text =>
    .obj [("kind", .str "if"), ("cond", cond.toJson), ("then", yes.toJson),
      ("otherwise", Stmt.toJsonOption no), ("constexpr", .bool atCompileTime),
      ("cond_text", ofOption .str text)]
  | .switch cond cases text =>
    .obj [("kind", .str "switch"), ("cond", cond.toJson), ("cases", .arr (Case.toJsonList cases)),
      ("cond_text", ofOption .str text)]
  | .whileLoop cond body text =>
    .obj [("kind", .str "while"), ("cond", cond.toJson), ("body", body.toJson),
      ("cond_text", ofOption .str text)]
  | .doLoop body cond text =>
    .obj [("kind", .str "do_while"), ("body", body.toJson), ("cond", cond.toJson),
      ("cond_text", ofOption .str text)]
  | .forLoop first cond step body text =>
    .obj [("kind", .str "for"), ("init", Stmt.toJsonOption first), ("cond", Expr.toJsonOption cond),
      ("inc", Expr.toJsonOption step), ("body", body.toJson), ("cond_text", ofOption .str text)]
  | .forEach range body text =>
    .obj [("kind", .str "for_range"), ("range", range.toJson), ("body", body.toJson),
      ("cond_text", ofOption .str text)]
  | .tryCatch body handlers =>
    .obj [("kind", .str "try"), ("body", body.toJson),
      ("handlers", .arr (Handler.toJsonList handlers))]
  | .ret value => .obj [("kind", .str "return"), ("value", Expr.toJsonOption value)]
  | .coReturn value => .obj [("kind", .str "co_return"), ("value", Expr.toJsonOption value)]
  | .breakOut => .obj [("kind", .str "break")]
  | .continueOn => .obj [("kind", .str "continue")]
  | .skip => .obj [("kind", .str "null")]

def Stmt.toJsonList : List Stmt → List Json
  | [] => []
  | s :: rest => s.toJson :: Stmt.toJsonList rest

def Stmt.toJsonOption : Option Stmt → Json
  | none => .null
  | some s => s.toJson

def Case.toJsonList : List Case → List Json
  | [] => []
  | ⟨label, body⟩ :: rest =>
    .obj [("label", ofOption .str label), ("body", .arr (Stmt.toJsonList body))] ::
      Case.toJsonList rest

def Handler.toJsonList : List Handler → List Json
  | [] => []
  | ⟨exception, body⟩ :: rest =>
    .obj [("exception", ofOption .str exception), ("body", body.toJson)] :: Handler.toJsonList rest

def Expr.toJson : Expr → Json
  | .call callee object args location comment =>
    .obj [("kind", .str "call"), ("callee", callee.toJson), ("object", Expr.toJsonOption object),
      ("args", .arr (Expr.toJsonList args)), ("location", ofOption Location.toJson location),
      ("comment", ofOption .str comment)]
  | .construct cls ctor args location comment =>
    .obj [("kind", .str "construct"), ("class", cls.toJson), ("ctor", ofOption DeclId.toJson ctor),
      ("args", .arr (Expr.toJsonList args)), ("location", ofOption Location.toJson location),
      ("comment", ofOption .str comment)]
  | .lambda operator location =>
    .obj [("kind", .str "lambda"), ("operator", operator.toJson),
      ("location", ofOption Location.toJson location)]
  | .coAwait operand awaiter location =>
    .obj [("kind", .str "co_await"), ("operand", operand.toJson),
      ("awaiter", ofOption DeclId.toJson awaiter), ("location", ofOption Location.toJson location)]
  | .coYield operand location =>
    .obj [("kind", .str "co_yield"), ("operand", operand.toJson),
      ("location", ofOption Location.toJson location)]
  | .async launcher callable args location =>
    .obj [("kind", .str "async"), ("launcher", .str launcher), ("callable", callable.toJson),
      ("args", .arr (Expr.toJsonList args)), ("location", ofOption Location.toJson location)]
  | .declRef decl => .obj [("kind", .str "decl_ref"), ("decl", decl.toJson)]
  | .var name => .obj [("kind", .str "var"), ("name", .str name)]
  | .assign target value =>
    .obj [("kind", .str "assign"), ("target", .str target), ("value", value.toJson)]
  | .conditional cond yes no text =>
    .obj [("kind", .str "conditional"), ("cond", cond.toJson), ("then", yes.toJson),
      ("otherwise", no.toJson), ("cond_text", ofOption .str text)]
  | .other children => .obj [("kind", .str "opaque"), ("children", .arr (Expr.toJsonList children))]

def Expr.toJsonList : List Expr → List Json
  | [] => []
  | e :: rest => e.toJson :: Expr.toJsonList rest

def Expr.toJsonOption : Option Expr → Json
  | none => .null
  | some e => e.toJson

def Callee.toJson : Callee → Json
  | .decl id templateArgs dispatch =>
    .obj [("via", .str "decl"), ("decl", id.toJson), ("template_args", .ofStrings templateArgs),
      ("dispatch", dispatch.toJson)]
  | .var name => .obj [("via", .str "var"), ("name", .str name)]
  | .expr e => .obj [("via", .str "expr"), ("expr", e.toJson)]
  | .unresolved name template =>
    .obj [("via", .str "unresolved"), ("name", .str name),
      ("template", ofOption DeclId.toJson template)]

end

def Stmt.words : List String :=
  ["compound", "expr", "var_decl", "if", "switch", "while", "do_while", "for",
    "for_range", "try", "return", "co_return", "break", "continue", "null"]

def Expr.words : List String :=
  ["call", "construct", "lambda", "co_await", "co_yield", "async", "decl_ref", "var",
    "assign", "conditional", "opaque"]

def Callee.words : List String :=
  ["decl", "var", "expr", "unresolved"]

mutual

def Expr.decode : (room : Nat) → Json → Option Expr
  | 0, _ => none
  | room + 1, j => do
    let (word, j) ← j.tagged? "kind" Expr.words
    match word with
    | "call" =>
      let r ← j.record? ["callee", "object", "args", "location", "comment"]
      return .call (← r.required "callee" (Callee.decode room))
        (← r.optional "object" (Expr.decode room))
        (← r.defaulted "args" (Json.list? (Expr.decode room)) [])
        (← r.optional "location" Location.ofJson?)
        (← r.optional "comment" Json.str?)
    | "construct" =>
      let r ← j.record? ["class", "ctor", "args", "location", "comment"]
      return .construct (← r.required "class" Json.word64?)
        (← r.optional "ctor" Json.word64?)
        (← r.defaulted "args" (Json.list? (Expr.decode room)) [])
        (← r.optional "location" Location.ofJson?)
        (← r.optional "comment" Json.str?)
    | "lambda" =>
      let r ← j.record? ["operator", "location"]
      return .lambda (← r.required "operator" Json.word64?)
        (← r.optional "location" Location.ofJson?)
    | "co_await" =>
      let r ← j.record? ["operand", "awaiter", "location"]
      return .coAwait (← r.required "operand" (Expr.decode room))
        (← r.optional "awaiter" Json.word64?) (← r.optional "location" Location.ofJson?)
    | "co_yield" =>
      let r ← j.record? ["operand", "location"]
      return .coYield (← r.required "operand" (Expr.decode room))
        (← r.optional "location" Location.ofJson?)
    | "async" =>
      let r ← j.record? ["launcher", "callable", "args", "location"]
      return .async (← r.defaulted "launcher" Json.str? "")
        (← r.required "callable" (Expr.decode room))
        (← r.defaulted "args" (Json.list? (Expr.decode room)) [])
        (← r.optional "location" Location.ofJson?)
    | "decl_ref" =>
      let r ← j.record? ["decl"]
      return .declRef (← r.required "decl" Json.word64?)
    | "var" =>
      let r ← j.record? ["name"]
      return .var (← r.required "name" Json.str?)
    | "assign" =>
      let r ← j.record? ["target", "value"]
      return .assign (← r.required "target" Json.str?) (← r.required "value" (Expr.decode room))
    | "conditional" =>
      let r ← j.record? ["cond", "then", "otherwise", "cond_text"]
      return .conditional (← r.required "cond" (Expr.decode room))
        (← r.required "then" (Expr.decode room))
        (← r.required "otherwise" (Expr.decode room)) (← r.optional "cond_text" Json.str?)
    | "opaque" =>
      let r ← j.record? ["children"]
      return .other (← r.defaulted "children" (Json.list? (Expr.decode room)) [])
    | _ => none

def Callee.decode : (room : Nat) → Json → Option Callee
  | 0, _ => none
  | room + 1, j => do
    let (word, j) ← j.tagged? "via" Callee.words
    match word with
    | "decl" =>
      let r ← j.record? ["decl", "template_args", "dispatch"]
      return .decl (← r.required "decl" Json.word64?)
        (← r.defaulted "template_args" (Json.list? Json.str?) [])
        (← r.defaulted "dispatch" Dispatch.ofJson? .static)
    | "var" =>
      let r ← j.record? ["name"]
      return .var (← r.required "name" Json.str?)
    | "expr" =>
      let r ← j.record? ["expr"]
      return .expr (← r.required "expr" (Expr.decode room))
    | "unresolved" =>
      let r ← j.record? ["name", "template"]
      return .unresolved (← r.required "name" Json.str?) (← r.optional "template" Json.word64?)
    | _ => none

end

def Case.decodeWith (stmt : Json → Option Stmt) (j : Json) : Option Case := do
  let r ← j.record? ["label", "body"]
  return ⟨← r.optional "label" Json.str?, ← r.defaulted "body" (Json.list? stmt) []⟩

def Handler.decodeWith (stmt : Json → Option Stmt) (j : Json) : Option Handler := do
  let r ← j.record? ["exception", "body"]
  return ⟨← r.optional "exception" Json.str?, ← r.required "body" stmt⟩

def Stmt.decode : (room : Nat) → Json → Option Stmt
  | 0, _ => none
  | room + 1, j => do
    let (word, j) ← j.tagged? "kind" Stmt.words
    match word with
    | "compound" =>
      let r ← j.record? ["body"]
      return .block (← r.defaulted "body" (Json.list? (Stmt.decode room)) [])
    | "expr" =>
      let r ← j.record? ["expr"]
      return .expr (← r.required "expr" (Expr.decode room))
    | "var_decl" =>
      let r ← j.record? ["name", "init"]
      return .declare (← r.required "name" Json.str?) (← r.optional "init" (Expr.decode room))
    | "if" =>
      let r ← j.record? ["cond", "then", "otherwise", "constexpr", "cond_text"]
      return .ifElse (← r.required "cond" (Expr.decode room))
        (← r.required "then" (Stmt.decode room))
        (← r.optional "otherwise" (Stmt.decode room)) (← r.defaulted "constexpr" Json.bool? false)
        (← r.optional "cond_text" Json.str?)
    | "switch" =>
      let r ← j.record? ["cond", "cases", "cond_text"]
      return .switch (← r.required "cond" (Expr.decode room))
        (← r.defaulted "cases" (Json.list? (Case.decodeWith (Stmt.decode room))) [])
        (← r.optional "cond_text" Json.str?)
    | "while" =>
      let r ← j.record? ["cond", "body", "cond_text"]
      return .whileLoop (← r.required "cond" (Expr.decode room))
        (← r.required "body" (Stmt.decode room)) (← r.optional "cond_text" Json.str?)
    | "do_while" =>
      let r ← j.record? ["body", "cond", "cond_text"]
      return .doLoop (← r.required "body" (Stmt.decode room))
        (← r.required "cond" (Expr.decode room)) (← r.optional "cond_text" Json.str?)
    | "for" =>
      let r ← j.record? ["init", "cond", "inc", "body", "cond_text"]
      return .forLoop (← r.optional "init" (Stmt.decode room))
        (← r.optional "cond" (Expr.decode room))
        (← r.optional "inc" (Expr.decode room)) (← r.required "body" (Stmt.decode room))
        (← r.optional "cond_text" Json.str?)
    | "for_range" =>
      let r ← j.record? ["range", "body", "cond_text"]
      return .forEach (← r.required "range" (Expr.decode room))
        (← r.required "body" (Stmt.decode room)) (← r.optional "cond_text" Json.str?)
    | "try" =>
      let r ← j.record? ["body", "handlers"]
      return .tryCatch (← r.required "body" (Stmt.decode room))
        (← r.defaulted "handlers" (Json.list? (Handler.decodeWith (Stmt.decode room))) [])
    | "return" =>
      let r ← j.record? ["value"]
      return .ret (← r.optional "value" (Expr.decode room))
    | "co_return" =>
      let r ← j.record? ["value"]
      return .coReturn (← r.optional "value" (Expr.decode room))
    | "break" => let _ ← j.record? []; return .breakOut
    | "continue" => let _ ← j.record? []; return .continueOn
    | "null" => let _ ← j.record? []; return .skip
    | _ => none

def Stmt.ofJson? (j : Json) : Option Stmt :=
  Stmt.decode j.height j

def Expr.ofJson? (j : Json) : Option Expr :=
  Expr.decode j.height j

def Callee.ofJson? (j : Json) : Option Callee :=
  Callee.decode j.height j

namespace Param

def toJson (p : Param) : Json :=
  .obj [("name", .str p.name), ("type", .str p.type)]

def ofJson? (j : Json) : Option Param := do
  let r ← j.record? ["name", "type"]
  return { name := ← r.defaulted "name" Json.str? "", type := ← r.required "type" Json.str? }

end Param

namespace RecordInfo

def fields (r : RecordInfo) : List (String × Json) :=
  [("is_struct", .bool r.isStruct), ("is_lambda", .bool r.isLambda),
    ("parent", ofOption DeclId.toJson r.parent)]

def ofJson? (j : Json) : Option RecordInfo := do
  let r ← j.record? ["is_struct", "is_lambda", "parent"]
  return {
    isStruct := ← r.defaulted "is_struct" Json.bool? false
    isLambda := ← r.defaulted "is_lambda" Json.bool? false
    parent := ← r.optional "parent" Json.word64? }

end RecordInfo

namespace Function

def fields (f : Function) : List (String × Json) :=
  [("owner", ofOption DeclId.toJson f.owner), ("params", .arr (f.params.map Param.toJson)),
    ("return_type", .str f.returnType), ("is_static", .bool f.isStatic),
    ("is_const", .bool f.isConst),
    ("is_virtual", .bool f.isVirtual), ("is_constructor", .bool f.isConstructor),
    ("is_destructor", .bool f.isDestructor), ("is_operator", .bool f.isOperator),
    ("is_coroutine", .bool f.isCoroutine), ("body", Stmt.toJsonOption f.body)]

def ofJson? (j : Json) : Option Function := do
  let r ← j.record? ["owner", "params", "return_type", "is_static", "is_const", "is_virtual",
    "is_constructor", "is_destructor", "is_operator", "is_coroutine", "body"]
  return {
    owner := ← r.optional "owner" Json.word64?
    params := ← r.defaulted "params" (Json.list? Param.ofJson?) []
    returnType := ← r.defaulted "return_type" Json.str? "void"
    isStatic := ← r.defaulted "is_static" Json.bool? false
    isConst := ← r.defaulted "is_const" Json.bool? false
    isVirtual := ← r.defaulted "is_virtual" Json.bool? false
    isConstructor := ← r.defaulted "is_constructor" Json.bool? false
    isDestructor := ← r.defaulted "is_destructor" Json.bool? false
    isOperator := ← r.defaulted "is_operator" Json.bool? false
    isCoroutine := ← r.defaulted "is_coroutine" Json.bool? false
    body := ← r.optional "body" Stmt.ofJson? }

end Function

namespace DeclKind

def fields : DeclKind → List (String × Json)
  | .record r => ("kind", .str "record") :: r.fields
  | .function f => ("kind", .str "function") :: f.fields

def ofJson? (j : Json) : Option DeclKind := do
  let (word, j) ← j.tagged? "kind" ["record", "function"]
  match word with
  | "record" => return .record (← RecordInfo.ofJson? j)
  | "function" | "method" => return .function (← Function.ofJson? j)
  | _ => none

end DeclKind

namespace Decl

def toJson (d : Decl) : Json :=
  .obj ([("id", d.id.toJson), ("name", .str d.name), ("namespace", .str d.namespaceName),
    ("location", ofOption Location.toJson d.location), ("template_args", .ofStrings d.templateArgs),
    ("instantiated_from", ofOption DeclId.toJson d.instantiatedFrom),
    ("annotations", .ofStrings d.annotations)] ++ d.kind.fields)

def commonFields : List String :=
  ["id", "name", "namespace", "location", "template_args", "instantiated_from", "annotations"]

/-- A declaration and its kind share one object, so the array form is not open to it. What may
belong to the kind is taken in before the kind is known. -/
def ofJson? : Json → Option Decl
  | .obj fields => do
    let j := Json.obj fields
    let r ← j.record? commonFields
    if !Json.usableFields (fields.filter fun f => !commonFields.contains f.1) then none
    return {
      id := ← r.required "id" Json.word64?
      name := ← r.defaulted "name" Json.str? ""
      namespaceName := ← r.defaulted "namespace" Json.str? ""
      location := ← r.optional "location" Location.ofJson?
      templateArgs := ← r.defaulted "template_args" (Json.list? Json.str?) []
      instantiatedFrom := ← r.optional "instantiated_from" Json.word64?
      annotations := ← r.defaulted "annotations" (Json.list? Json.str?) []
      kind := ← DeclKind.ofJson? j }
  | _ => none

end Decl

namespace TranslationUnit

def toJson (u : TranslationUnit) : Json :=
  .obj [("file", u.file.toJson), ("decls", .arr (u.decls.map Decl.toJson))]

def ofJson? (j : Json) : Option TranslationUnit := do
  let r ← j.record? ["file", "decls"]
  return {
    file := ← r.required "file" Path.ofJson?
    decls := ← r.defaulted "decls" (Json.list? Decl.ofJson?) [] }

end TranslationUnit

end Lifeline
