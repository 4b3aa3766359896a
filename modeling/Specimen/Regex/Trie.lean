/-!
# Texts in a tree

Texts read byte by byte, those that begin alike on the same path. Where a text ends, the ways that were
there before it come first and those that are added later come after it: the ways on from a place are
in stages, and a text that ends at a place closes a stage.
-/

namespace Specimen

/-- A place in a tree of texts: the stages that are closed, and the one that is not. Within a stage the
ways on are in the order of their bytes. -/
inductive ByteTrie
  | node (closed : List (List (Nat × ByteTrie))) (current : List (Nat × ByteTrie))

namespace ByteTrie

def empty : ByteTrie := node [] []

/-- Whether no way leads on. -/
def isLeaf : ByteTrie → Bool
  | node closed current => closed.all List.isEmpty && current.isEmpty

/-- The place with a text that ends there. -/
def close (t : ByteTrie) : ByteTrie :=
  match t with
  | node closed current =>
    if t.isLeaf && !closed.isEmpty then t else node (closed ++ [current]) []

/-- The ways of a stage with what the way of a byte leads to grown. -/
def along (byte : Nat) (grow : ByteTrie → ByteTrie) :
    List (Nat × ByteTrie) → List (Nat × ByteTrie)
  | [] => [(byte, grow empty)]
  | (b, t) :: rest =>
    if byte < b then (byte, grow empty) :: (b, t) :: rest
    else if byte = b then (b, grow t) :: rest
    else (b, t) :: along byte grow rest

/-- The tree with a text added. -/
def insert : List Nat → ByteTrie → ByteTrie
  | [], t => t.close
  | byte :: bytes, node closed current => node closed (along byte (insert bytes) current)

/-- The tree of texts in the order given. -/
def ofTexts (texts : List (List Nat)) : ByteTrie :=
  texts.foldl (fun t bytes => insert bytes t) empty

end ByteTrie

end Specimen
