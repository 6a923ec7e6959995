/-! # Template trees

A template is a list of nodes: literal text, positional look-ups and calls.  Arguments are nodes
again, and an argument may also be a juxtaposition of several.  `Expr.calls` lists the calls of a
tree in the order in which their names stand in the text. -/

namespace CacheKeys.Template

/-- A node of a template.  A context value is written as its index in braces, the offset of a call
is the byte position of its name, and a concatenation has its parts side by side in one argument. -/
inductive Expr where
  | literal (text : String)
  | argRef (index : Nat)
  | call (name : String) (args : List Expr) (offset : Nat)
  | concat (parts : List Expr)
  deriving Inhabited

namespace Expr

/-! ### Equality -/

mutual

/-- Decides whether two nodes are equal, offsets included. -/
def decEq : (a b : Expr) → Decidable (a = b)
  | .literal s, .literal t =>
    if h : s = t then isTrue (by rw [h]) else isFalse (fun e => h (Expr.literal.inj e))
  | .argRef m, .argRef n =>
    if h : m = n then isTrue (by rw [h]) else isFalse (fun e => h (Expr.argRef.inj e))
  | .call f as i, .call g bs j =>
    match decEqList as bs with
    | isTrue h =>
      if hf : f = g ∧ i = j then isTrue (by rw [h, hf.1, hf.2])
      else isFalse (fun e => hf ⟨(Expr.call.inj e).1, (Expr.call.inj e).2.2⟩)
    | isFalse h => isFalse (fun e => h (Expr.call.inj e).2.1)
  | .concat ps, .concat qs =>
    match decEqList ps qs with
    | isTrue h => isTrue (by rw [h])
    | isFalse h => isFalse (fun e => h (Expr.concat.inj e))
  | .literal _, .argRef _ => isFalse nofun
  | .literal _, .call _ _ _ => isFalse nofun
  | .literal _, .concat _ => isFalse nofun
  | .argRef _, .literal _ => isFalse nofun
  | .argRef _, .call _ _ _ => isFalse nofun
  | .argRef _, .concat _ => isFalse nofun
  | .call _ _ _, .literal _ => isFalse nofun
  | .call _ _ _, .argRef _ => isFalse nofun
  | .call _ _ _, .concat _ => isFalse nofun
  | .concat _, .literal _ => isFalse nofun
  | .concat _, .argRef _ => isFalse nofun
  | .concat _, .call _ _ _ => isFalse nofun

/-- Decides whether two lists of nodes are equal. -/
def decEqList : (as bs : List Expr) → Decidable (as = bs)
  | [], [] => isTrue rfl
  | [], _ :: _ => isFalse nofun
  | _ :: _, [] => isFalse nofun
  | a :: as, b :: bs =>
    match decEq a b, decEqList as bs with
    | isTrue h, isTrue hs => isTrue (by rw [h, hs])
    | isFalse h, _ => isFalse (fun e => h (List.cons.inj e).1)
    | _, isFalse hs => isFalse (fun e => hs (List.cons.inj e).2)

end

instance : DecidableEq Expr := decEq

/-! ### Views -/

def isLiteral : Expr → Bool
  | .literal _ => true
  | _ => false

mutual

/-- The number of nodes of a tree, the root included. -/
def nodeCount : Expr → Nat
  | .literal _ => 1
  | .argRef _ => 1
  | .call _ args _ => 1 + nodeCountAll args
  | .concat parts => 1 + nodeCountAll parts

/-- The number of nodes of all trees of a list. -/
def nodeCountAll : List Expr → Nat
  | [] => 0
  | e :: es => e.nodeCount + nodeCountAll es

end

/-- A call as it stands in the text: its name, the place of the name and the argument count. -/
structure CallSite where
  name : String
  offset : Nat
  argCount : Nat
  deriving DecidableEq

mutual

/-- The calls of a tree, a call before those in its arguments. -/
def calls : Expr → List CallSite
  | .literal _ => []
  | .argRef _ => []
  | .call name args offset => ⟨name, offset, args.length⟩ :: callsAll args
  | .concat parts => callsAll parts

/-- The calls of a list of trees, from left to right. -/
def callsAll : List Expr → List CallSite
  | [] => []
  | e :: es => e.calls ++ callsAll es

end

end Expr

end CacheKeys.Template
