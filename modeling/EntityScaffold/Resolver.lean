import EntityScaffold.Config
import EntityScaffold.Failure
import EntityScaffold.Naming.ClassPath
/-!
# Resolving entity names

A `Resolver` finds the class that a name in a type expression stands for.  A class is there when it is
known to the resolver or when its file is.  A short name is tried in every namespace in turn, as a class
of the namespace and as a class of the sub-namespace of its own name; after that the known classes are
searched, first by code point.  A qualified name stands for itself when the class is there or when it lies
in one of the namespaces.

Looking for the file of a class without segments is a misuse; `Resolver.resolve` is written so that it can
be seen never to do it.
-/

namespace EntityScaffold

/-- What is looked at to find the class behind a name. -/
structure Resolver where
  namespaces : List String
  knownClasses : List String
  /-- Where classes have their files; without it only known classes are there. -/
  appDir : Option Path
  fileExtension : String
  files : FileTree

namespace Resolver

open Text ClassName

/-- A resolver, without the backslashes around namespaces and classes. -/
def make (namespaces knownClasses : List String) (appDir : Option Path) (fileExtension : String)
    (files : FileTree) : Resolver :=
  ⟨(namespaces.map bare).filter (· != ""), knownClasses.map bare, appDir, fileExtension, files⟩

/-- The resolver of a configuration, which knows some classes more. -/
def ofConfig (config : Config) (extra : List String) (files : FileTree) : Resolver :=
  make config.namespaces (config.knownClasses ++ extra) (some config.appDir) config.fileExtension files

/-- Whether a class is there. -/
def isThere (r : Resolver) (name : String) : Except Failure Bool :=
  let name := bare name
  if r.knownClasses.contains name then .ok true
  else
    match r.appDir with
    | none => .ok false
    | some appDir =>
      match path? name appDir r.fileExtension with
      | none => .error (.misused .noSegments)
      | some path => ofFiles (r.files.isFile path)

/-- The first of the classes that is there. -/
def firstThere (r : Resolver) : List String → Except Failure (Option String)
  | [] => .ok none
  | name :: rest => do if ← r.isThere name then pure (some name) else r.firstThere rest

/-- The classes that a short name may stand for in the namespaces, in the order of trying. -/
def candidates (r : Resolver) (name : String) : List String :=
  r.namespaces.flatMap fun space => [space ++ "\\" ++ name, space ++ "\\" ++ name ++ "\\" ++ name]

/-- The first known class of a short name, by code point. -/
def knownAs (r : Resolver) (name : String) : Option String :=
  (sorted r.knownClasses).find? fun known => shortName known == name

/-- Whether a qualified name lies in one of the namespaces. -/
def isInside (r : Resolver) (name : String) : Bool :=
  r.namespaces.any fun space => (space ++ "\\").toList.isPrefixOf name.toList

/-- The class that a name stands for, if there is one. -/
def resolve (r : Resolver) (name : String) : Except Failure (Option String) :=
  let name := bare name
  if name = "" then .ok none
  else if name.toList.contains '\\' then do
    if ← r.isThere name then pure (some name)
    else pure (if r.isInside name then some name else none)
  else do
    match ← r.firstThere (r.candidates name) with
    | some found => pure (some found)
    | none => pure (r.knownAs name)

/-- The files that are looked at to find the class behind a name. -/
def places (r : Resolver) (name : String) : List Path :=
  let name := bare name
  (name :: r.candidates name).filterMap fun c =>
    r.appDir.bind fun appDir => path? c appDir r.fileExtension

end Resolver

end EntityScaffold
