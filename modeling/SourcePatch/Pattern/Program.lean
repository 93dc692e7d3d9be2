import SourcePatch.Pattern.Node

/-!
# Matching programs

A node is laid out as a list of numbered instructions. Each instruction reads a character, tests
the position, records it, or says where to go on; a `split` prefers its first target.

* `emit node base next` is the layout of a node from address `base` on, going on at `next`; it
  has `size node` instructions.
* `Program.ofNode` closes the layout with `accept`.
-/

namespace SourcePatch.Pattern

/-- One step of a matching program. -/
inductive Instr where
  | read (set : CharSet) (next : Nat)
  | look (l : Look) (next : Nat)
  | save (slot next : Nat)
  | jump (next : Nat)
  | split (first second : Nat)
  | accept
deriving DecidableEq, Repr, Inhabited

/-- How many instructions a node takes. -/
def size : Node → Nat
  | .empty => 1
  | .chars _ => 1
  | .look _ => 1
  | .cat a b => size a + size b
  | .alt a b => 1 + size a + size b
  | .group _ sub => size sub + 2
  | .repeated lo hi _ sub =>
    match hi with
    | none => if lo = 0 then size sub + 2 else (lo - 1) * size sub + 1 + size sub + 1
    | some hi => lo * size sub + 1 + (hi - lo) * (size sub + 1) + 1

/-- A branch that prefers to go into a repetition when greedy, and past it otherwise. -/
def enter (greedy : Bool) (inside past : Nat) : Instr :=
  if greedy then .split inside past else .split past inside

/-- Several copies of a layout of `n` instructions, one after another. -/
def emitCopies (n : Nat) (layout : Nat → Nat → List Instr) :
    (count base next : Nat) → List Instr
  | 0, _, next => [.jump next]
  | count + 1, base, next =>
    layout base (base + n) ++ emitCopies n layout count (base + n) next

/-- Copies of a layout of which each may be left out together with those after it. -/
def emitOptional (greedy : Bool) (n : Nat) (layout : Nat → Nat → List Instr) :
    (count base next : Nat) → List Instr
  | 0, _, next => [.jump next]
  | count + 1, base, next =>
    enter greedy (base + 1) next :: (layout (base + 1) (base + 1 + n) ++
      emitOptional greedy n layout count (base + 1 + n) next)

/-- The instructions of a node from address `base` on; after the node, matching goes on at
`next`. -/
def emit : Node → (base next : Nat) → List Instr
  | .empty, _, next => [.jump next]
  | .chars set, _, next => [.read set next]
  | .look l, _, next => [.look l next]
  | .cat a b, base, next => emit a base (base + size a) ++ emit b (base + size a) next
  | .alt a b, base, next =>
    .split (base + 1) (base + 1 + size a) :: (emit a (base + 1) next ++
      emit b (base + 1 + size a) next)
  | .group index sub, base, next =>
    .save (2 * index) (base + 1) :: (emit sub (base + 1) (base + 1 + size sub) ++
      [.save (2 * index + 1) next])
  | .repeated lo hi greedy sub, base, next =>
    match hi with
    | none =>
      if lo = 0 then
        enter greedy (base + 1) next :: (emit sub (base + 1) (base + 1 + size sub) ++
          [enter greedy (base + 1) next])
      else
        let last := base + (lo - 1) * size sub + 1
        emitCopies (size sub) (emit sub) (lo - 1) base last ++
          (emit sub last (last + size sub) ++ [enter greedy last next])
    | some hi =>
      let optional := base + lo * size sub + 1
      emitCopies (size sub) (emit sub) lo base optional ++
        emitOptional greedy (size sub) (emit sub) (hi - lo) optional next

/-- A program: its instructions, which begin at address `0`, and the number of its groups. -/
structure Program where
  instrs : Array Instr
  groups : Nat
deriving Repr, Inhabited

namespace Program

/-- The most instructions a program may have. -/
def sizeLimit : Nat := 200000

def ofNode (node : Node) : Except PatternError Program :=
  if size node ≤ sizeLimit then
    .ok ⟨(emit node 0 (size node) ++ [Instr.accept]).toArray, node.groupCount⟩
  else .error .tooLarge

end Program

end SourcePatch.Pattern
