import EntityScaffold.Artifact.Data
import EntityScaffold.Artifact.DataFactory
import EntityScaffold.Artifact.Entity
import EntityScaffold.Artifact.Event
import EntityScaffold.Artifact.Facade
import EntityScaffold.Artifact.Factory
import EntityScaffold.Artifact.NotFound
import EntityScaffold.Artifact.Repository
import EntityScaffold.Naming.ClassPath
import EntityScaffold.Record.Assembly
import EntityScaffold.Source.Printer
import EntityScaffold.Text.Lines
/-!
# Scaffolding

From a record to files.  `Scaffold.units` gives the source unit of every artifact in a fixed order, after the
record has been checked; `Scaffold.render` prints the units and says where each file goes; `Scaffold.generate`
writes them one after another.  Everything is rendered before the first file is written, and what has been
written stays when a later file cannot be.
-/

namespace EntityScaffold.Scaffold

open Text

/-- The artifacts of a record, in the order in which they are generated. -/
def artifacts (r : Record) : List Artifact :=
  [.entity, .data, .factory, .repository, .facade, .notFound] ++ r.events.map .event ++
    if r.features.dataFactory then [.dataFactory] else []

/-- The source unit of an artifact. -/
def unit (config : Config) (r : Record) : Artifact → Except Failure SourceUnit
  | .entity => Artifact.Entity.write config r
  | .data => .ok (Artifact.Data.unit r)
  | .factory => .ok (Artifact.Factory.unit config r)
  | .repository => Artifact.Repository.unit config r
  | .facade => .ok (Artifact.Facade.unit config r)
  | .notFound => .ok (Artifact.NotFound.unit config r)
  | .event name => .ok (Artifact.Event.unit config r name)
  | .dataFactory => .ok (Artifact.DataFactory.unit r)

/-- The source units of a consistent record. -/
def units (config : Config) (r : Record) : Except Failure (List (Artifact × SourceUnit)) := do
  r.validate
  (artifacts r).mapM fun a => do pure (a, ← unit config r a)

/-- A generated file: its class, its path, and its text in normal form. -/
structure GeneratedFile where
  artifact : String
  className : String
  path : Path
  content : String
  deriving DecidableEq, Repr, Inhabited

/-- Find the place of a class and bring its text into normal form. -/
def prepare (config : Config) (artifact className content : String) :
    Except Failure GeneratedFile :=
  match ClassName.path? className config.appDir config.fileExtension with
  | none => .error (.misused .noSegments)
  | some path => .ok ⟨artifact, className, path, Lines.normalize content⟩

/-- The files of a record. -/
def render (config : Config) (r : Record) : Except Failure (List GeneratedFile) := do
  (← units config r).mapM fun (a, u) => prepare config a.key u.qualifiedName u.print

/-- Write files one after another, up to the first that cannot be written; the paths of those that were. -/
def writeAll (tree : FileTree) : List GeneratedFile → FileTree × Except Failure (List Path)
  | [] => (tree, .ok [])
  | file :: rest =>
    match tree.write file.path file.content with
    | (tree, some fault) => (tree, .error (.file fault))
    | (tree, none) =>
      let (tree, written) := writeAll tree rest
      (tree, written.map (file.path :: ·))

/-- Write the files of a record. -/
def generate (config : Config) (r : Record) (tree : FileTree) :
    FileTree × Except Failure (List Path) :=
  match render config r with
  | .error failure => (tree, .error failure)
  | .ok files => writeAll tree files

end EntityScaffold.Scaffold
