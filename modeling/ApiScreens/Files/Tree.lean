import ApiScreens.Files.Error
import ApiScreens.Path
import ApiScreens.SortedMap

/-! A tree of files and directories, and the directory in which relative paths begin. A place in the
tree is the list of names from its root. There are no links: two places never share their contents, and
no place has two. -/
namespace ApiScreens.Files

inductive Contents where
  | text (s : String)
  | raw (bytes : List UInt8)
  deriving DecidableEq, Repr

inductive Entry where
  | file (c : Contents)
  | directory
  deriving DecidableEq, Repr

abbrev Location := List String

structure Tree where
  entries : List (Location × Entry) := []
  base : Location := []
  distinct : (entries.map (·.1)).Nodup := by exact .nil
  deriving DecidableEq, Repr

namespace Tree

def at? (t : Tree) (l : Location) : Option Entry :=
  if l = [] then some .directory else t.entries.lookup l

def putEntry (l : Location) (e : Entry) : List (Location × Entry) → List (Location × Entry)
  | [] => [(l, e)]
  | (k, x) :: rest => if l = k then (l, e) :: rest else (k, x) :: putEntry l e rest

theorem putEntryKeys (l : Location) (e : Entry) (es : List (Location × Entry)) :
    (putEntry l e es).map (·.1) =
      if l ∈ es.map (·.1) then es.map (·.1) else es.map (·.1) ++ [l] := by
  induction es with
  | nil => rfl
  | cons head rest ih =>
    obtain ⟨k, x⟩ := head
    by_cases same : l = k
    · simp [putEntry, same]
    · by_cases inside : l ∈ rest.map (·.1)
      · simp only [putEntry, if_neg same, List.map_cons, ih, if_pos inside,
          if_pos (List.mem_cons_of_mem k inside)]
      · have outside : l ∉ k :: rest.map (·.1) := by simp only [List.mem_cons, same, inside]; simp
        simp only [putEntry, if_neg same, List.map_cons, ih, if_neg inside, if_neg outside,
          List.cons_append]

theorem putEntryDistinct (l : Location) (e : Entry) {es : List (Location × Entry)}
    (h : (es.map (·.1)).Nodup) : ((putEntry l e es).map (·.1)).Nodup := by
  rw [putEntryKeys]
  split
  · exact h
  · rename_i fresh
    refine List.pairwise_append.2 ⟨h, List.pairwise_singleton _ _, fun k old m new => ?_⟩
    rw [List.mem_singleton.1 new]
    exact fun same => fresh (same ▸ old)

def put (t : Tree) (l : Location) (e : Entry) : Tree :=
  ⟨putEntry l e t.entries, t.base, putEntryDistinct l e t.distinct⟩

def ofList (base : Location) (es : List (Location × Entry)) : Tree :=
  es.foldl (fun t (l, e) => t.put l e) { base }

theorem lookupPutEntry (l k : Location) (e : Entry) (es : List (Location × Entry)) :
    (putEntry l e es).lookup k = if k = l then some e else es.lookup k := by
  induction es with
  | nil =>
    by_cases h : k = l
    · simp [putEntry, h]
    · have differs : (k == l) = false := by simpa using h
      simp [putEntry, List.lookup_cons, h, differs]
  | cons head rest ih =>
    obtain ⟨m, x⟩ := head
    by_cases same : l = m
    · subst same
      by_cases h : k = l
      · simp [putEntry, h]
      · have differs : (k == l) = false := by simpa using h
        simp [putEntry, List.lookup_cons, h, differs]
    · by_cases h : k = m
      · subst h
        have other : k ≠ l := fun e => same e.symm
        simp [putEntry, same, other]
      · have differs : (k == m) = false := by simpa using h
        simp [putEntry, same, List.lookup_cons, differs, ih]

theorem atPut (t : Tree) (l k : Location) (e : Entry) (inside : l ≠ []) :
    (t.put l e).at? k = if k = l then some e else t.at? k := by
  unfold at? put
  by_cases root : k = []
  · subst root; simp [Ne.symm inside]
  · simp [root, lookupPutEntry]

def remove (t : Tree) (l : Location) : Tree :=
  ⟨t.entries.filter fun (k, _) => !l.isPrefixOf k, t.base,
    t.distinct.sublist (List.filter_sublist.map _)⟩

inductive Place where
  | present (l : Location) (e : Entry)
  | free (l : Location)
  deriving DecidableEq, Repr

def steps (p : String) : List String := (Text.splitOn '/' p).filter (· ≠ "")

def walk (t : Tree) (l : Location) : List String → Except FileError Place
  | [] => match t.at? l with
      | some e => .ok (.present l e)
      | none => .error .missing
  | step :: rest =>
      match t.at? l with
      | none => .error .missing
      | some (.file _) => .error .notDirectory
      | some .directory =>
          if step = "." then walk t l rest
          else if step = ".." then walk t l.dropLast rest
          else if rest = [] ∧ t.at? (l ++ [step]) = none then .ok (.free (l ++ [step]))
          else walk t (l ++ [step]) rest

def endsInSlash (p : String) : Bool := p.toList.getLast? = some '/'

def follow (t : Tree) (p : String) : Except FileError Place :=
  if p = "" then .error .missing
  else if p.toList.contains (Char.ofNat 0) then .error .nulInPath
  else t.walk (if Path.isAbsolute p then [] else t.base) (steps p)

def locate (t : Tree) (p : String) : Except FileError Place :=
  match t.follow p with
  | .ok (.present l (.file c)) =>
      if endsInSlash p then .error .notDirectory else .ok (.present l (.file c))
  | place => place

def present (t : Tree) (p : String) : Bool :=
  match t.locate p with
  | .ok (.present _ _) => true
  | _ => false

def isDirectory (t : Tree) (p : String) : Bool :=
  match t.locate p with
  | .ok (.present _ .directory) => true
  | _ => false

def read (t : Tree) (p : String) : Except FileError Contents :=
  match t.locate p with
  | .ok (.present _ (.file c)) => .ok c
  | .ok (.present _ .directory) => .error .isDirectory
  | .ok (.free _) => .error .missing
  | .error e => .error e

def readText (t : Tree) (p : String) : Except FileError String :=
  match t.read p with
  | .ok (.text s) => .ok s
  | .ok (.raw _) => .error .notText
  | .error e => .error e

def namesAt (t : Tree) (l : Location) : List String :=
  sortedDistinct <| t.entries.filterMap fun (k, _) =>
    match k.getLast? with
    | some name => if k.dropLast = l then some name else none
    | none => none

def names (t : Tree) (p : String) : Except FileError (List String) :=
  match t.locate p with
  | .ok (.present l .directory) => .ok (t.namesAt l)
  | .ok (.present _ (.file _)) => .error .notDirectory
  | .ok (.free _) => .error .missing
  | .error e => .error e

def below (t : Tree) (l : Location) : List (Location × Entry) :=
  ((t.at? l).map fun e => ([], e)).toList ++
    t.entries.filterMap fun (k, e) =>
      if l.isPrefixOf k && k ≠ l then some (k.drop l.length, e) else none

/-- The contents of a file, which is made if nothing is there. A path with a slash at its end asks for a
directory, whatever is there. -/
def write (t : Tree) (p : String) (c : Contents) : Except FileError Tree :=
  match t.follow p with
  | .ok (.present _ .directory) => .error .isDirectory
  | .ok (.present l (.file _)) => if endsInSlash p then .error .isDirectory else .ok (t.put l (.file c))
  | .ok (.free l) => if endsInSlash p then .error .isDirectory else .ok (t.put l (.file c))
  | .error e => .error e

def copy (t : Tree) (source target : String) : Except FileError Tree :=
  match t.locate source with
  | .ok (.present _ (.file c)) => t.write target c
  | .ok (.present _ .directory) => .error .notFile
  | .ok (.free _) => .error .missing
  | .error e => .error e

def makeDirectory (t : Tree) (p : String) : Except FileError Tree :=
  match t.follow p with
  | .ok (.present _ _) => .error .alreadyThere
  | .ok (.free l) => .ok (t.put l .directory)
  | .error e => .error e

def settle (t : Tree) (p : String) : Except FileError Tree → Tree × Option FileError
  | .ok t => (t, none)
  | .error e => (t, if t.isDirectory p then none else some e)

/-- The first of the directories with all that it needs of the others, each of which holds the one
before it. What was made stays also if a later one fails. -/
def makeFrom (t : Tree) : List String → Tree × Option FileError
  | [] => (t, none)
  | p :: outer =>
      match t.makeDirectory p with
      | .error .missing =>
          match t.makeFrom outer with
          | (t, none) => t.settle p (t.makeDirectory p)
          | (t, some e) => (t, some e)
      | attempt => t.settle p attempt

def ancestors : (fuel : Nat) → String → List String
  | 0, _ => []
  | fuel + 1, p =>
      if p = "" then []
      else p :: match Path.parent p with
        | some outer => ancestors fuel outer
        | none => []

def makeDirectories (t : Tree) (p : String) : Tree × Option FileError :=
  t.makeFrom (ancestors (p.length + 1) p)

end Tree
end ApiScreens.Files
