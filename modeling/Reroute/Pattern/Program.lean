import Reroute.Pattern.Expr

/-!
Programs of pattern instructions, built from the end of the pattern to its start: each part is
compiled with the address of what comes after it.
-/

namespace Reroute.Pattern

open Unicode (CharSet)

inductive Inst where
  | take (chars : CharSet) (next : Nat)
  | check (l : Look) (next : Nat)
  | save (slot next : Nat)
  /-- Go on at the first address and, should that fail, at the second. -/
  | fork (first second : Nat)
  | accept
  | fail

abbrev Code := Array Inst

namespace Code

def emit (code : Code) (inst : Inst) : Nat × Code := (code.size, code.push inst)

def loopInst (greedy : Bool) (body next : Nat) : Inst :=
  if greedy then .fork body next else .fork next body

/-- A part one or more times. The choice behind it leads back to its start. -/
def emitLoop (part : Nat → Code → Nat × Code) (greedy : Bool) (next : Nat) (code : Code) :
    Nat × Code :=
  let (choice, code) := code.emit .fail
  let (body, code) := part choice code
  (body, code.set! choice (loopInst greedy body next))

def emitCopies (part : Nat → Code → Nat × Code) : Nat → Nat → Code → Nat × Code
  | 0, next, code => (next, code)
  | n + 1, next, code =>
    let (next, code) := part next code
    emitCopies part n next code

/-- A part up to `n` times. Whoever leaves early goes on at `stop`. -/
def emitOptions (part : Nat → Code → Nat × Code) (greedy : Bool) (stop : Nat) :
    Nat → Nat → Code → Nat × Code
  | 0, next, code => (next, code)
  | n + 1, next, code =>
    let (body, code) := part next code
    let (choice, code) := code.emit (loopInst greedy body stop)
    emitOptions part greedy stop n choice code

def emitText (t : Text) (next : Nat) (code : Code) : Nat × Code :=
  t.foldr (fun c (next, code) => code.emit (.take (.singleton c) next)) (next, code)

def emitRepetition (part : Nat → Code → Nat × Code) (min : Nat) (max : Option Nat)
    (greedy : Bool) (next : Nat) (code : Code) : Nat × Code :=
  match max with
  | none =>
    let (body, code) := emitLoop part greedy next code
    if min = 0 then code.emit (loopInst greedy body next)
    else emitCopies part (min - 1) body code
  | some max =>
    let (options, code) := emitOptions part greedy next (max - min) next code
    emitCopies part min options code

end Code

namespace Expr

mutual

/-- Adds the instructions of an expression in front of `next` and gives their start. -/
def compile : Expr → Nat → Code → Nat × Code
  | .empty, next, code => (next, code)
  | .text t, next, code => code.emitText t next
  | .set chars, next, code => code.emit (.take chars next)
  | .look l, next, code => code.emit (.check l next)
  | .capture index body, next, code =>
    let (stop, code) := code.emit (.save (2 * index + 1) next)
    let (start, code) := compile body stop code
    code.emit (.save (2 * index) start)
  | .repetition body min max greedy, next, code =>
    Code.emitRepetition (fun next code => compile body next code) min max greedy next code
  | .concat parts, next, code => compileParts parts next code
  | .choice branches, next, code => compileBranches branches next code

def compileParts : List Expr → Nat → Code → Nat × Code
  | [], next, code => (next, code)
  | e :: es, next, code =>
    let (next, code) := compileParts es next code
    compile e next code

def compileBranches : List Expr → Nat → Code → Nat × Code
  | [], _, code => code.emit .fail
  | [e], next, code => compile e next code
  | e :: es, next, code =>
    let (others, code) := compileBranches es next code
    let (first, code) := compile e next code
    code.emit (.fork first others)

end

end Expr

structure Program where
  start : Nat
  code : Code

def Program.ofExpr (e : Expr) : Program :=
  let (accept, code) := Code.emit #[] .accept
  let (start, code) := e.compile accept code
  { start, code }

end Reroute.Pattern
