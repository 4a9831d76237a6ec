import Enrollment.Secret.Tree
import Enrollment.Text.Blank

/-!
# Tokens from mounted secrets

A secret is mounted as a directory, and its token is the file with a fixed name in it. A
reference to a secret is a path below the directory of all secrets. A secret that is not
there is told apart from one that holds no token.
-/

namespace Enrollment.Secret

/-- The name of the file that holds the token. -/
def tokenKey : String := "apiToken"

/-- The directory of a secret. -/
def directoryOf (root ref : String) : String := joinPath root ref

def tokenPath (root ref : String) : String := joinPath (directoryOf root ref) tokenKey

/-- The token in a file: its text without the white space around it. -/
def ofContent (ref : String) (content : Bytes) : Except LookupFault String :=
  match Utf8.decode? content with
  | none => .error (.file .notUtf8)
  | some cs =>
    let token := Text.trim (String.ofList cs)
    if token.isEmpty then .error (.secretMalformed ref s!"'{tokenKey}' is empty") else .ok token

/-- The token of a secret, given what the directory of the secret and the path of the token
lead to. -/
def tokenOf (ref : String) (secret token : Except PathFault Node) : Except LookupFault String :=
  match secret with
  | .error .missing => .error (.secretNotFound ref)
  | .error (.fault fault) => .error (.file fault)
  | .ok _ =>
    match token with
    | .error .missing => .error (.secretMalformed ref s!"missing '{tokenKey}' key")
    | .error (.fault fault) => .error (.file fault)
    | .ok .directory => .error (.file .isDirectory)
    | .ok (.file content) => ofContent ref content

/-- The token of a secret in a file tree. -/
def Tree.token (tree : Tree) (root ref : String) : Except LookupFault String :=
  tokenOf ref (tree.find (directoryOf root ref)) (tree.find (tokenPath root ref))

end Enrollment.Secret
