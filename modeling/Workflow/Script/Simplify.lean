import Workflow.Script.Library
import Workflow.Script.Purity

/-!
# Simplified scripts

A script is simplified before it is evaluated. Constants are put in for their names, operators on
constants are applied, choices with a known outcome are made, and statements without effect are left
out unless they give a block its value. A simplified script differs from the script as it is written
in what it takes the value of a block to be, in what may go wrong in it, and in how many operations
it makes.

Each block is gone through until nothing changes any more, with a fuel.

## Main definitions

* `Workflow.Script.simplifyExpr`, `Workflow.Script.simplifyStmt`, `Workflow.Script.simplifyBlock` —
  simplified expressions, statements and blocks.
* `Workflow.Script.Code.simplified` — simplified scripts.
-/

namespace Workflow.Script

/-- What is known while a script is simplified. -/
structure Simplifying where
  /-- The variables in sight, the nearest first, with the values of constants. -/
  known : List (String × Option Datum)
  /-- Constants are put in for their names. -/
  spreads : Bool
  hasChanged : Bool

/-- A step of a simplification. -/
abbrev Simplify := StateM Simplifying

/-- Something that has changed. -/
def changed {α : Type} (a : α) : Simplify α := do
  modify fun k => { k with hasChanged := true }
  pure a

/-- The value of a constant by its name, if it may be put in for it. -/
def knownConstant? (name : String) : Simplify (Option Datum) := do
  let k ← get
  pure (if k.spreads then (k.known.lookup name).join else none)

/-- The outcomes of a step for the items of a list. -/
def eachOf {α β : Type} (f : α → Simplify β) : List α → Simplify (List β)
  | [] => pure []
  | a :: rest => do
    let b ← f a
    let bs ← eachOf f rest
    pure (b :: bs)

/-! ### Expressions -/

/-- The expression with its own place changed. -/
def Expr.placedAt (spot : Spot) : Expr → Expr
  | .constant d _ => .constant d spot
  | .variable name _ => .variable name spot
  | e => e

/-- An item of a list of expressions by its place, counted back from the end when it is negative. -/
def itemAt? {α : Type} (items : List α) (n : Int64) : Option α :=
  (place? items.length n).bind fun i => items[i]?

/-- What a single link makes of an operand that is written out. -/
def picked? (root : Expr) (link : Link) : Option Expr :=
  match root, link with
  | .mapOf fields spot, .property name _ => ofFields fields spot name
  | .mapOf fields spot, .item (.constant (.text name) _) _ => ofFields fields spot name
  | .arrayOf items spot, .item (.constant (.int n) _) _ =>
    if items.all Expr.isPure then (itemAt? items n).map (·.placedAt spot) else none
  | .constant (.int m) spot, .item (.constant (.int n) _) _ =>
    (place? wordBits n).map fun i => .constant (.bool (bitOf m i)) spot
  | .constant (.text s) spot, .item (.constant (.int n) _) _ =>
    (itemAt? s.toList n).map fun c => .constant (.char c) spot
  | root, .method "type_of" [] joint =>
    root.value?.map fun d => .constant (.text d.typeName) joint.spot
  | root, .method "is_shared" [] joint =>
    root.value?.map fun _ => .constant (.bool false) joint.spot
  | _, _ => none
where
  /-- The field of a name, or nothing. -/
  ofFields (fields : List (String × Expr)) (spot : Spot) (name : String) : Option Expr :=
    if fields.all (·.2.isPure) then
      match fields.lookup name with
      | some e => some (e.placedAt spot)
      | none => some (.constant .unit spot)
    else none

/-- Parts of a text with neighbouring texts joined, and without what adds nothing. -/
def joinedParts : List Expr → List Expr
  | [] => []
  | [e] => [e]
  | a :: rest =>
    match a, joinedParts rest with
    | .constant .unit _, rest => rest
    | .constant (.text "") _, rest => rest
    | a, [.constant .unit _] => [a]
    | a, [.constant (.text "") _] => [a]
    | .constant (.text s) spot, .constant (.text t) _ :: rest =>
      .constant (.text (s ++ t)) spot :: rest
    | a, rest => a :: rest

/-- Operands up to the first one that decides, without those that are neutral. -/
def decisive (neutral decides : Expr → Bool) : List Expr → List Expr
  | [] => []
  | e :: rest =>
    if neutral e then decisive neutral decides rest
    else if decides e then [e]
    else e :: decisive neutral decides rest

/-- An expression that is constantly nothing. -/
def Expr.isUnit : Expr → Bool
  | .constant .unit _ => true
  | _ => false

/-- Operands put together again: none are a constant, and one stands for itself. -/
def reunited (whole : List Expr → Expr) (none : Expr) (before after : List Expr) : Simplify Expr :=
  match after with
  | [] => changed none
  | [e] => changed e
  | operands => if operands.length = before.length then pure (whole operands)
    else changed (whole operands)

/-- The name of a function can be made a datum. -/
def namesFunction (s : String) : Bool :=
  match wordToken s with
  | .word s => isProperWord s.toList && s.toList.all isWordPart
  | _ => false

/-- What a call with constant arguments comes to, as far as that is certain beforehand. -/
def foreseen? (name : String) (args : List Datum) : Option Datum :=
  match name, args with
  | "Fn", [.text s] => if namesFunction s then some (.function s [] []) else none
  | "type_of", [d] => some (.text d.typeName)
  | "is_shared", [_] => some (.bool false)
  | _, _ => none

/-! ### Statements -/

/-- An assignment of an operator's outcome to its own first operand, as an assignment with that
operator. -/
def selfAssigned? : Stmt → Option Stmt
  | .assign (.variable name spot) none (.binary op (.variable first _) second place) _ =>
    if name = first ∧ op.isAssignable then
      some (.assign (.variable name spot) (some op) second place)
    else none
  | _ => none

/-- The statements up to the first one behind which nothing is reached. -/
def upToExit : List Stmt → List Stmt
  | [] => []
  | s :: rest => if s.isExit then [s] else s :: upToExit rest

/-- The statement is a block in which nothing is defined. -/
def Stmt.isLoose : Stmt → Bool
  | .block body _ => !body.any Stmt.isBound
  | _ => false

mutual

/-- The statements of a block in which nothing is defined, or the statement itself. -/
def Stmt.opened : Stmt → List Stmt
  | .block body spot => if body.any Stmt.isBound then [.block body spot] else openedAll body
  | s => [s]

/-- Statements with the blocks among them opened in which nothing is defined. -/
def openedAll : List Stmt → List Stmt
  | [] => []
  | s :: rest => s.opened ++ openedAll rest

end

/-- A statement of which something behind it may depend. -/
def holdsBack (pureHere : Stmt → Bool) (s : Stmt) : Bool :=
  !pureHere s ||
    match s with
    | .define _ _ value _ => !value.isConstant
    | .expression e => !e.isConstant
    | .importModule path _ => !path.isConstant
    | _ => false

/-- Statements without those that have no effect. The last one stays if it gives the value. What
only its block would see stays before a statement that may depend on it. -/
def withoutPure (pureHere : Stmt → Bool) (keepsLast : Bool) : List Stmt → List Stmt
  | [] => []
  | s :: rest =>
    let free := s.isPure || pureHere s && !(s :: rest).tail.any (holdsBack pureHere)
    if free && !(keepsLast && rest.isEmpty) then withoutPure pureHere keepsLast rest
    else s :: withoutPure pureHere keepsLast rest

/-- One step in tidying the end of statements that give a value, from the last one backwards. -/
def tidiedOnce? (pureHere : Stmt → Bool) (reduces : Bool) : List Stmt → Option (List Stmt)
  | [] => none
  | .returnWith value spot :: rest =>
    if !reduces then none
    else
      match value, rest with
      | some e, rest => some (.expression e :: rest)
      | none, [] => some []
      | none, s :: rest => some (if s.hasValue then .nothing spot :: s :: rest else s :: rest)
  | s :: rest =>
    if s.hasValue || !pureHere s then none
    else
      match rest with
      | [] => some []
      | t :: rest =>
        if !t.hasValue then some (t :: rest)
        else
          match s with
          | .nothing _ => none
          | s => some (.nothing s.spot :: t :: rest)

/-- The end of statements that give a value tidied, from the last one backwards, and whether that
has changed anything. -/
def tidied (pureHere : Stmt → Bool) (reduces : Bool) : (fuel : Nat) → List Stmt → List Stmt × Bool
  | 0, ss => (ss, false)
  | fuel + 1, ss =>
    match tidiedOnce? pureHere reduces ss with
    | some ss => ((tidied pureHere reduces fuel ss).1, true)
    | none => (ss, false)

/-- The end of statements that give no value, from the last one backwards, without what has no
effect. -/
def trimmedEnd (pureHere : Stmt → Bool) (reduces : Bool) : List Stmt → List Stmt
  | [] => []
  | s :: rest =>
    let goes := match s with
      | .returnWith none _ => reduces
      | .returnWith (some e) _ => reduces && e.isPure
      | s => pureHere s
    if goes then trimmedEnd pureHere reduces rest else s :: rest

/-- Statements without effect are left out, and the end of the block is tidied; with whether that
has changed anything. -/
def cleared (keepsValue inner reduces : Bool) (ss : List Stmt) : List Stmt × Bool :=
  let pureHere := if inner then Stmt.isPureInside else Stmt.isPure
  let left := (withoutPure pureHere keepsValue ss).reverse
  let (left, hasChanged) :=
    if keepsValue then tidied pureHere reduces (2 * left.length + 2) left
    else (trimmedEnd pureHere reduces left, false)
  (left.reverse, hasChanged || left.length != ss.length)

/-- A block, or nothing. -/
def asStmt (spot : Spot) : List Stmt → Stmt
  | [] => .nothing spot
  | ss => .block ss spot

/-! ### Simplification -/

/-- A case holds a datum. -/
def Case.holds (d : Datum) : Case → Bool
  | .mk data _ _ _ => data.any (Datum.identical d)

/-- A case spans a datum. -/
def Case.spans (d : Datum) : Case → Bool
  | .mk _ ranges _ _ => ranges.any fun (a, b, i) =>
    match d with
    | .int n => a ≤ n && (if i then n ≤ b else n < b)
    | .float x =>
      Decimal.nearest a ≤ x && (if i then x ≤ Decimal.nearest b else x < Decimal.nearest b)
    | _ => false

/-- The condition of a case. -/
def Case.guard? : Case → Option Expr
  | .mk _ _ guard _ => guard

/-- What a case comes to. -/
def Case.body : Case → Expr
  | .mk _ _ _ body => body

/-- What a choice on a known datum comes to, if it can be said. -/
def chosenStmt? (d : Datum) (cases : List Case) (otherwise : Option Expr) (start spot : Spot) :
    Option Stmt :=
  let final : Stmt := match otherwise with
    | some e => .expression e
    | none => .block [] spot
  let promoted (c : Case) : Stmt :=
    match c.guard? with
    | none => .expression c.body
    | some g => .branch g [.expression c.body] (otherwise.toList.map .expression) start
  let inRanges : Option Stmt :=
    match cases.filter fun c => c.spans d with
    | [] => some final
    | [c] => some (promoted c)
    | c :: rest => if (c :: rest).all (·.guard?.isNone) then some (promoted c) else none
  match cases.filter fun c => c.holds d with
  | [] => inRanges
  | [c] => some (promoted c)
  | c :: rest =>
    match (c :: rest).find? (·.guard?.isNone) with
    | some c => some (promoted c)
    | none => inRanges

mutual

/-- The expression simplified. -/
def simplifyExpr (fuel : Nat) (e : Expr) : Simplify Expr :=
  match fuel with
  | 0 => pure e
  | fuel + 1 =>
    match e with
    | .perform [] spot => changed (.constant .unit spot)
    | .perform [.expression e] _ => do
      let e ← simplifyExpr fuel e
      changed e
    | .perform body spot => do
      match ← simplifyBlock fuel true true false body with
      | [.expression e] => changed e
      | body => pure (.perform body spot)
    | .constant _ _ => pure e
    | .variable name spot => do
      match ← knownConstant? name with
      | some d => changed (.constant d spot)
      | none => pure e
    | .this _ => pure e
    | .closure _ _ _ => pure e
    | .foreign path name (some args) spot => do
      let args ← eachOf (simplifyExpr fuel) args
      pure (.foreign path name (some args) spot)
    | .foreign _ _ none _ => pure e
    | .template parts spot =>
      match e.value? with
      | some d => changed (.constant d spot)
      | none => do
        let parts ← eachOf (simplifyExpr fuel) parts
        let joined := joinedParts parts
        if joined.length = parts.length then pure (.template parts spot)
        else changed (.template joined spot)
    | .arrayOf items spot =>
      match e.value? with
      | some d => changed (.constant d spot)
      | none => do
        let items ← eachOf (simplifyExpr fuel) items
        pure (.arrayOf items spot)
    | .mapOf fields spot =>
      match e.value? with
      | some d => changed (.constant d spot)
      | none => do
        let fields ← eachOf (fun (k, e) => (k, ·) <$> simplifyExpr fuel e) fields
        pure (.mapOf fields spot)
    | .both operands spot => do
      let operands ← eachOf (simplifyExpr fuel) operands
      reunited (.both · spot) (.constant (.bool true) spot) operands
        (decisive (·.truth? == some true) (·.truth? == some false) operands)
    | .either operands spot => do
      let operands ← eachOf (simplifyExpr fuel) operands
      reunited (.either · spot) (.constant (.bool false) spot) operands
        (decisive (·.truth? == some false) (·.truth? == some true) operands)
    | .coalesce operands spot => do
      let operands ← eachOf (simplifyExpr fuel) operands
      reunited (.coalesce · spot) (.constant .unit spot) operands
        (decisive Expr.isUnit Expr.isConstant operands)
    | .binary op a b spot =>
      match a.value?, b.value? with
      | some x, some y =>
        match Datum.atOnce? op x y with
        | some (.ok d) => changed (.constant d spot)
        | _ => simplifyOperands fuel op a b spot
      | _, _ => simplifyOperands fuel op a b spot
    | .unary op a spot => do
      let a ← simplifyExpr fuel a
      pure (.unary op a spot)
    | .call name style args spot =>
      if name = evalName then do
        modify fun k => { k with spreads := false }
        pure e
      else
        match (valuesOf? args).bind (foreseen? name) with
        | some d => changed (.constant d spot)
        | none => do
          let args ← eachOf (simplifyExpr fuel) args
          pure (.call name style args spot)
    | .chain root links =>
      match root, links with
      | .constant .unit spot, [] => pure (.constant .unit spot)
      | .constant .unit spot, link :: rest =>
        if link.joint.lenient then changed (.constant .unit spot)
        else simplifyLinks fuel root (link :: rest)
      | root, [link] =>
        match picked? root link with
        | some e => changed e
        | none => simplifyLinks fuel root [link]
      | root, links => simplifyLinks fuel root links

/-- The operands of a binary operator simplified. -/
def simplifyOperands (fuel : Nat) (op : BinaryOp) (a b : Expr) (spot : Spot) : Simplify Expr :=
  match fuel with
  | 0 => pure (.binary op a b spot)
  | fuel + 1 => do
    let a ← simplifyExpr fuel a
    let b ← simplifyExpr fuel b
    pure (.binary op a b spot)

/-- A chain with its root, its indices and its arguments simplified. A variable at the root stays,
for its parts may be changed. -/
def simplifyLinks (fuel : Nat) (root : Expr) (links : List Link) : Simplify Expr :=
  match fuel with
  | 0 => pure (.chain root links)
  | fuel + 1 => do
    let root ← match root with
      | .variable _ _ => pure root
      | root => simplifyExpr fuel root
    let links ← eachOf (fun (link : Link) => do
      match link with
      | .property _ _ => pure link
      | .item index joint =>
        let index ← simplifyExpr fuel index
        pure (.item index joint)
      | .method name args joint =>
        let args ← eachOf (simplifyExpr fuel) args
        pure (.method name args joint)) links
    pure (.chain root links)

/-- The statement simplified; in a block it may give its value. -/
def simplifyStmt (fuel : Nat) (keepsValue : Bool) (s : Stmt) : Simplify Stmt :=
  match fuel with
  | 0 => pure s
  | fuel + 1 =>
    match s with
    | .assign target operator value spot =>
      match selfAssigned? s with
      | some s => changed s
      | none => do
        let target ← match target with
          | .variable _ _ => pure target
          | .this _ => pure target
          | target => simplifyExpr fuel target
        let value ← simplifyExpr fuel value
        pure (.assign target operator value spot)
    | .branch test [] [] spot => do
      let test ← simplifyExpr fuel test
      if keepsValue then changed (.block [.expression test, .nothing test.start] spot)
      else changed (.expression test)
    | .branch test yes no spot =>
      match test.truth? with
      | some b => do
        let body ← simplifyBlock fuel keepsValue true false (if b then yes else no)
        changed (asStmt spot body)
      | none => do
        let test ← simplifyExpr fuel test
        let yes ← simplifyBlock fuel keepsValue true false yes
        let no ← simplifyBlock fuel keepsValue true false no
        pure (.branch test yes no spot)
    | .choose subject cases otherwise spot =>
      match subject.value?.bind fun d => chosenStmt? d cases otherwise subject.start spot with
      | some s => do
        let s ← simplifyStmt fuel true s
        changed s
      | none => do
        let subject ← if subject.isConstant then pure subject else simplifyExpr fuel subject
        let cases ← eachOf (fun (c : Case) => do
          match c with
          | .mk data ranges guard body =>
            let guard ← match guard with
              | some g => some <$> simplifyExpr fuel g
              | none => pure none
            let body ← simplifyExpr fuel body
            pure (.mk data ranges guard body)) cases
        let possible := cases.filter fun c => c.guard?.bind Expr.truth? != some false
        let otherwise ← match otherwise with
          | some e => some <$> simplifyExpr fuel e
          | none => pure none
        let s : Stmt := .choose subject possible otherwise spot
        if possible.length = cases.length then pure s else changed s
    | .whileLoop test body spot =>
      match test.truth? with
      | some false => changed (.nothing spot)
      | _ => do
        let test ← simplifyExpr fuel test
        let body ← simplifyBlock fuel false true false body
        match test.truth? with
        | some true => pure (.endless body spot)
        | _ => pure (.whileLoop test body spot)
    | .endless body spot => do
      let body ← simplifyBlock fuel false true false body
      pure (.endless body spot)
    | .doLoop body test outcome spot => do
      let body ← simplifyBlock fuel false true false body
      if test.truth? == some (!outcome) then changed (.block body spot)
      else
        let test ← simplifyExpr fuel test
        pure (.doLoop body test outcome spot)
    | .forLoop name counter source body spot => do
      let source ← simplifyExpr fuel source
      let body ← simplifyBlock fuel false true false body
      pure (.forLoop name counter source body spot)
    | .define name isConstant value spot => do
      let value ← simplifyExpr fuel value
      pure (.define name isConstant value spot)
    | .importModule path spot => do
      let path ← simplifyExpr fuel path
      pure (.importModule path spot)
    | .block body spot => do
      match ← simplifyBlock fuel keepsValue true false body with
      | [] => changed (.nothing spot)
      | [s] => if s.isBound then pure (.block [s] spot) else changed s
      | body => pure (.block body spot)
    | .tryCatch body name handler spot => do
      let isPure := arePure body
      let body ← simplifyBlock fuel false true false body
      if isPure then changed (.block body spot)
      else
        let handler ← simplifyBlock fuel false true false handler
        pure (.tryCatch body name handler spot)
    | .expression (.perform [] spot) => changed (.nothing spot)
    | .expression (.perform body spot) => do
      let body ← simplifyBlock fuel true true false body
      changed (.block body spot)
    | .expression e =>
      match e with
      | .call _ _ _ _ => changed (.action e)
      | .binary _ _ _ _ => changed (.action e)
      | .unary _ _ _ => changed (.action e)
      | e => .expression <$> simplifyExpr fuel e
    | .action e => do
      match ← simplifyExpr fuel e with
      | .call name style args spot => pure (.action (.call name style args spot))
      | .binary op a b spot => pure (.action (.binary op a b spot))
      | .unary op a spot => pure (.action (.unary op a spot))
      | e => pure (.expression e)
    | .breakOut (some e) spot => do
      let e ← simplifyExpr fuel e
      pure (.breakOut (some e) spot)
    | .returnWith (some e) spot => do
      let e ← simplifyExpr fuel e
      pure (.returnWith (some e) spot)
    | .throwWith (some e) spot => do
      let e ← simplifyExpr fuel e
      pure (.throwWith (some e) spot)
    | s => pure s

/-- Statements simplified one after the other, with what they define. -/
def simplifyAll (fuel : Nat) (keepsValue : Bool) (ss : List Stmt) : Simplify (List Stmt) :=
  match fuel with
  | 0 => pure ss
  | fuel + 1 =>
    match ss with
    | [] => pure []
    | s :: rest => do
      let s ← simplifyStmt fuel keepsValue s
      match s with
      | .define name isConstant value _ =>
        let d := if isConstant then value.value? else none
        modify fun k => { k with known := (name, d) :: k.known }
      | _ => pure ()
      let rest ← simplifyAll fuel keepsValue rest
      pure (s :: rest)

/-- The statements of a block simplified until nothing changes any more. -/
def simplifyRounds (fuel : Nat) (keepsValue inner reduces : Bool) (ss : List Stmt) :
    Simplify (List Stmt) :=
  match fuel with
  | 0 => pure ss
  | fuel + 1 => do
    let before ← get
    set { before with hasChanged := false }
    let reached := upToExit ss
    let simpler ← simplifyAll fuel keepsValue reached
    let (left, isCleared) := cleared keepsValue inner reduces simpler
    let again := (← get).hasChanged || isCleared || reached.length != ss.length
    set { before with hasChanged := before.hasChanged || again }
    if again then simplifyRounds fuel keepsValue inner reduces left else pure left

/-- The statements of a block simplified. -/
def simplifyBlock (fuel : Nat) (keepsValue inner reduces : Bool) (ss : List Stmt) :
    Simplify (List Stmt) :=
  match fuel with
  | 0 => pure ss
  | fuel + 1 => do
    let left ← simplifyRounds fuel keepsValue inner reduces (openedAll ss)
    if ss.any Stmt.isLoose then changed left else pure left

end

/-- More levels than any script has, and more rounds than any of its blocks needs. -/
def simplificationFuel : Nat := 1000000000

/-- The body of a function or a script simplified, which gives its value. -/
def simplifiedBody (body : List Stmt) : List Stmt :=
  ((simplifyBlock simplificationFuel true false true body).run ⟨[], true, false⟩).1

/-- The script simplified. -/
def Code.simplified (code : Code) : Code where
  functions := code.functions.map fun f => { f with body := simplifiedBody f.body }
  body := simplifiedBody code.body

end Workflow.Script
