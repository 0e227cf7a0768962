import CommitStyle.Git.Repository

/-!
# Histories

A commit comes after its parents, of which a merge has several. A range of commits is what comes up to
its later end and not up to its earlier end, each commit after those that it is a parent of.
-/

namespace CommitStyle.Repository

open Git (ObjectId)

def parents (repository : Repository) (commit : Commit) : List Commit :=
  commit.parents.filterMap repository.commitAt?

/-- The commits that have been found, and those that are found from the ones ahead by going from commit
to parent, up to a number of steps. -/
def walk (repository : Repository) : Nat → List Commit → List Commit → List Commit
  | 0, found, _ => found
  | count + 1, found, ahead =>
    match ahead.dropWhile fun commit => (found.map (·.id)).contains commit.id with
    | commit :: rest => repository.walk count (commit :: found) (repository.parents commit ++ rest)
    | [] => found

/-- A commit and all that come before it, in no order. -/
def history (repository : Repository) (commit : Commit) : List Commit :=
  repository.walk repository.objectBound [] [commit]

/-- Commits that are put in order: the ends of the edges from children that have not been given yet to
their parents, and the commits that can be given next. -/
structure Pending where
  edges : List ObjectId
  ready : List Commit

/-- Takes an edge away. The commit at its end can be given if no other edge leads to it. -/
def Pending.release (commits : List Commit) (pending : Pending) (id : ObjectId) : Pending :=
  let edges := pending.edges.erase id
  { edges
    ready := if edges.contains id then pending.ready
      else (commits.find? (·.id == id)).toList ++ pending.ready }

/-- Gives so many commits, each after its children. Of those that can be given, the one that was
released last comes first. -/
def Pending.order (commits : List Commit) : Nat → Pending → List Commit
  | 0, _ => []
  | count + 1, pending =>
    match pending.ready with
    | commit :: ready =>
      commit :: Pending.order commits count
        (commit.parents.foldl (Pending.release commits) { pending with ready })
    | [] => []

def childrenFirst (commits : List Commit) : List Commit :=
  let edges := commits.flatMap (·.parents)
  Pending.order commits commits.length
    { edges, ready := commits.filter fun commit => !edges.contains commit.id }

/-- The two ends of a range, the later one being the head where it is left out. -/
def rangeEnds? : List Char → Option (List Char × List Char)
  | '.' :: '.' :: rest => some ([], if rest.isEmpty then "HEAD".toList else rest)
  | c :: rest => (rangeEnds? rest).map fun (first, last) => (c :: first, last)
  | [] => none

def checkParents (repository : Repository) (commit : Commit) : Except Error Unit :=
  match commit.parents.find? fun id => (repository.commitAt? id).isNone with
  | some id =>
    raise (.commandFailed "revwalk" s!"object not found - no match for id ({id.digits})")
  | none => .ok ()

/-- The commits of a range, the newest first: those up to its later end that do not come before its
earlier end. -/
def range (repository : Repository) (expression : String) : Except Error (List Commit) :=
  match rangeEnds? expression.toList with
  | none => do return [← repository.find expression]
  | some (first, last) => do
    let newest ← repository.find (String.ofList last)
    let oldest ← repository.find (String.ofList first)
    let hidden := (repository.history oldest).map (·.id)
    let shown := (repository.history newest).filter fun commit => !hidden.contains commit.id
    shown.forM repository.checkParents
    return childrenFirst shown

end CommitStyle.Repository
