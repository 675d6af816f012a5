import EntityHub.File.Tree
import EntityHub.Key.Pair
import EntityHub.Text.Utf8
/-!
# Key directories

A directory that keeps a key pair in two files, which only their owner may read and write. The
private key is written first.
-/

namespace EntityHub.KeyDirectory

open File (Tree)

/-- The file of the private key. -/
def privateName : String := "node_key"

/-- The file of the public key. -/
def publicName : String := "node_key.pub"

/-- Read and write for the owner, nothing for others. -/
def ownerOnly : Nat := 0o600

/-- What is done with a tree of files and may fail. -/
abbrev Action (α : Type) := ExceptT Error (StateM Tree) α

/-- Refuses a path that is not that of a directory. -/
def check (directory : String) : Action Unit := do
  if directory = "" then throw (.of .keyLocationRequired)
  else if (← get).isDirectory directory then return
  else throw (.of (.keyLocationNotADirectory directory))

/-- The text of a key file. -/
def readFile (path : String) : Action String := do
  match ((← get).read? path).bind Utf8.decode? with
  | some text => return text
  | none => throw (.ofFault (.keyFileUnreadable path) .file)

/-- One operation on a key file that the system may refuse. -/
def change (path : String) (operation : Tree → Bool × Tree) : Action Unit := do
  let (done, t) := operation (← get)
  set t
  if done then return else throw (.ofFault (.keyFileUnwritable path) .file)

/-- Writes a key file. One that was there before loses its contents and its permissions. -/
def writeFile (path text : String) : Action Unit := do
  change path (·.write? path (Utf8.encode text) ownerOnly)
  change path (·.setMode? path ownerOnly)

/-- The private key in a file. -/
def readPrivate (path : String) : Action PrivateKey := do
  MonadExcept.ofExcept (PrivateKey.ofPem? (← readFile path))

/-- The public key in a file. -/
def readPublic (path : String) : Action PublicKey := do
  MonadExcept.ofExcept (PublicKey.ofPem? (← readFile path))

/-- Writes both keys of a pair into a directory. -/
def save (directory : String) (pair : KeyPair) : Action Unit := do
  check directory
  let privatePem ← MonadExcept.ofExcept pair.privateKey.pem?
  writeFile (Tree.join directory privateName) privatePem
  writeFile (Tree.join directory publicName) pair.publicKey.pem

/-- Reads a pair from a directory. -/
def load (directory : String) : Action KeyPair := do
  check directory
  let privateKey ← readPrivate (Tree.join directory privateName)
  let publicKey ← readPublic (Tree.join directory publicName)
  return ⟨privateKey, publicKey⟩

end EntityHub.KeyDirectory
