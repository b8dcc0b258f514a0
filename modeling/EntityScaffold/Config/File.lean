import EntityScaffold.Config.Reader
/-!
# Configuration files

A configuration is kept in a file.  What is saved is always JSON, whatever the file is called; in which format a file
is read, its suffix tells.
-/

namespace EntityScaffold.Config

/-- Write a configuration to a file, making its directory when needed. -/
def save (config : Config) (tree : FileTree) (path : Path) : FileTree × Option FileFault :=
  tree.write path config.print

/-- Read the configuration of a file. -/
def load (tree : FileTree) (path : Path) : Except Failure Config := do
  read path (← ofFiles (tree.read path))

end EntityScaffold.Config
