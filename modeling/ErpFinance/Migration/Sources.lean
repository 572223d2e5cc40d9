import ErpFinance.Ioport.Importer
import ErpFinance.Library.Sha256

/-!
# Module migrations

Modules register numbered SQL files with a priority and the modules they depend
on.  The sources are sorted by dependency, the files of each are put together
into steps, and all steps are written into one file system under versions that
are computed from the priority and the step's number.
-/

namespace ErpFinance.Migration

open Domain (int64)
open Ioport (parseInt)
open Library

structure DirEntry where
  name : String
  isDir : Bool := false
  read : Except String Bytes := .ok []

/-- `fs` is what reading the directory gives. -/
structure Source where
  module : String := ""
  priority : Int := 0
  dependsOn : List String := []
  fs : Except String (List DirEntry) := .ok []

/-! ## Steps of a source -/

inductive Direction where
  | up | down
deriving DecidableEq

def Direction.string : Direction → String
  | up => "up"
  | down => "down"

/-- `strings.TrimSuffix` of an ending that is there. -/
def dropSuffix (text ending : String) : String :=
  String.ofList (text.toList.take (text.toList.length - ending.toList.length))

def parseSQLFilename (name : String) : Option (Int × String × Direction) :=
  if ¬ hasSuffix name ".sql" then none
  else
    let name := dropSuffix name ".sql"
    let numbered (dir : Direction) (name : String) : Option (Int × String × Direction) :=
      let digits := name.toList.takeWhile (· ≠ '_')
      if digits = [] ∨ '_' ∉ name.toList then none
      else
        ((parseInt (String.ofList digits)).filter fun n => 1 ≤ n ∧ n ≤ 999).map fun n =>
          (n, String.ofList (name.toList.drop (digits.length + 1)), dir)
    if hasSuffix name ".up" then numbered .up (dropSuffix name ".up")
    else if hasSuffix name ".down" then numbered .down (dropSuffix name ".down")
    else none

structure Step where
  localNum : Int
  name : String
  up : Bytes := []
  down : Bytes := []

def Step.set (s : Step) (direction : Direction) (data : Bytes) : Step :=
  match direction with
  | .up => { s with up := data }
  | .down => { s with down := data }

/-- A file is put into the step of its number, which takes its name from its first file. -/
def record (byNum : List Step) (num : Int) (desc : String) (direction : Direction) (data : Bytes) :
    List Step :=
  if num ∈ byNum.map Step.localNum then
    byNum.map fun s => if s.localNum = num then s.set direction data else s
  else byNum ++ [({ localNum := num, name := desc } : Step).set direction data]

/-- One round of the loop over the directory. -/
def addEntry (byNum : List Step) (e : DirEntry) : Except String (List Step) :=
  if e.isDir then .ok byNum
  else
    match parseSQLFilename e.name with
    | none => .ok byNum
    | some (num, desc, direction) => do
        let data ← e.read.mapError ("read " ++ e.name ++ ": " ++ ·)
        return record byNum num desc direction data

def checkUp (s : Step) : Except String Unit :=
  if s.up = [] then
    .error ("step " ++ String.ofList (paddedInt 3 s.localNum) ++ " (" ++ s.name ++
      ") has no .up.sql file")
  else .ok ()

/-- `readSteps`; which step without an up file the error names is left to the map. -/
def readSteps (src : Source) : Except String (List Step) := do
  let entries ← src.fs.mapError ("readdir: " ++ ·)
  let byNum ← entries.foldlM addEntry []
  forM byNum checkUp
  return byNum.insertionSort fun s t => s.localNum ≤ t.localNum

/-! ## Dependencies -/

/-- The last source of a name is the one that counts. -/
def byModule (sources : List Source) (module : String) : Option Source :=
  sources.reverse.find? (·.module = module)

def checkDependencies (sources : List Source) (s : Source) : Except String Unit :=
  forM s.dependsOn fun dep =>
    if (byModule sources dep).isSome then .ok ()
    else .error ("migration: module \"" ++ s.module ++ "\" depends on \"" ++ dep ++
      "\" which is not registered")

/-- The variables that the visits share. -/
structure Search where
  visited : List String := []
  inStack : List String := []
  result : List Source := []

/-- The loop over the modules to be visited. -/
def visitAll (visit : String → Search → Except String Search) :
    List String → Search → Except String Search
  | [], st => .ok st
  | module :: rest, st => do
      let st ← visit module st
      visitAll visit rest st

def cycleError (module : String) : String :=
  "migration: dependency cycle detected involving module \"" ++ module ++ "\""

/-- `visit`; the stack holds each module once, so that as many rounds as there are modules do. -/
def visit (sources : List Source) : Nat → String → Search → Except String Search
  | rounds, module, st =>
    if module ∈ st.visited then .ok st
    else if module ∈ st.inStack then .error (cycleError module)
    else
      match rounds with
      | 0 => .error (cycleError module)
      | rounds + 1 => do
          let s := (byModule sources module).getD {}
          let st ← visitAll (visit sources rounds) (sortStrings s.dependsOn)
            { st with inStack := module :: st.inStack }
          return { visited := module :: st.visited, inStack := st.inStack.erase module
                   result := st.result ++ [s] }

/-- The order in which the visits start. -/
def starts (s t : Source) : Bool :=
  if s.priority ≠ t.priority then s.priority < t.priority else s.module ≤ t.module

def topoSort (sources : List Source) : Except String (List Source) := do
  forM sources (checkDependencies sources)
  let st ← visitAll (visit sources sources.length)
    ((sources.insertionSort fun s t => starts s t).map Source.module) {}
  return st.result

/-! ## The assembled file system -/

structure MigrationFile where
  version : Int
  module : String
  name : String
  direction : Direction
  data : Bytes

/-- `%06d_%s_%s` and the direction. -/
def MigrationFile.fileName (f : MigrationFile) : String :=
  String.ofList (paddedInt 6 f.version) ++ "_" ++ f.module ++ "_" ++ f.name ++ "." ++
    f.direction.string ++ ".sql"

/-- A map from file names: a file replaces the one of its name. -/
abbrev MemFS := List MigrationFile

def MemFS.put (mem : MemFS) (f : MigrationFile) : MemFS :=
  mem.filter (fun g => g.fileName ≠ f.fileName) ++ [f]

/-- The version of a step; the arithmetic has 64 bits. -/
def Source.version (src : Source) (localNum : Int) : Int :=
  int64 (src.priority * 1000 + localNum)

def Step.files (src : Source) (s : Step) : List MigrationFile :=
  { version := src.version s.localNum, module := src.module, name := s.name
    direction := .up, data := s.up } ::
  if s.down = [] then []
  else
    [{ version := src.version s.localNum, module := src.module, name := s.name
       direction := .down, data := s.down }]

def writeSteps (src : Source) : List Step → List (Int × String) × MemFS →
    Except String (List (Int × String) × MemFS)
  | [], st => .ok st
  | s :: rest, (usedVersions, mem) =>
    match usedVersions.lookup (src.version s.localNum) with
    | some prev =>
      .error ("migration: version collision at global version " ++
        toString (src.version s.localNum) ++ ": " ++ prev ++ " vs " ++ src.module ++ ":" ++
        s.name)
    | none =>
      writeSteps src rest
        ((src.version s.localNum, src.module ++ ":" ++ s.name) :: usedVersions,
          (s.files src).foldl MemFS.put mem)

/-- The loop over the sorted sources. -/
def writeSources : List Source → List (Int × String) × MemFS →
    Except String (List (Int × String) × MemFS)
  | [], st => .ok st
  | src :: rest, st => do
      let steps ← (readSteps src).mapError
        ("migration: module \"" ++ src.module ++ "\": read steps: " ++ ·)
      let st ← writeSteps src steps st
      writeSources rest st

/-- `BuildFSFrom`; a panic is an error. -/
def buildFSFrom (sources : List Source) : Except String MemFS := do
  let sorted ← topoSort sources
  let st ← writeSources sorted ([], [])
  return st.2

end ErpFinance.Migration
