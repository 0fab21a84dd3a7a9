import Rollout.Scenario.Encode
import Rollout.Scenario.Staging

/-!
# Normalization

Gives every app its full name and its place, settles its files and its repository, in the order of
the document, and stops at the first failure. A normalized scenario is what templates see.
-/

namespace Rollout

open Text

/-- The kind of apps that declare none. Their names are kept as they are. -/
def defaultAppKind : String :=
  "generic"

/-- An app's full name: behind the scenario's id and the app's kind, unless it is there already. -/
def qualifiedName (id kind name : String) : String :=
  if kind.isEmpty || kind = defaultAppKind then name
  else
    let lead := id ++ "-" ++ kind ++ "-"
    if startsWith name lead then name else lead ++ name

structure Scenario where
  document : Document
deriving DecidableEq

namespace Scenario

def suffix (s : Scenario) : String :=
  s.document.suffix

/-- What the templates of a scenario are expanded against: its document and its suffix. -/
def context (s : Scenario) : Json :=
  (Json.object (s.document.members ++ [("suffix", .string s.suffix)])).canonical

end Scenario

def App.place (d : Document) (app : App) : App :=
  let kind := if app.kind.isEmpty then defaultAppKind else app.kind
  let name := qualifiedName d.id kind app.name
  let dest :=
    if app.dest.isEmpty then d.dest ++ "/" ++ d.suffix ++ "/" ++ kind ++ "/" ++ name else app.dest
  { app with kind, name, dest := trimSlashes dest }

def App.normalize (downloader : Downloader) (d : Document) (app : App) : Fetched App := do
  let app := app.place d
  let customizations ←
    Fetched.each (Customization.configure downloader d.suffix app.dest) app.customizations
  let repository ← Fetched.lift (Repository.configureOption app.repository)
  return { app with customizations, repository }

def Document.normalize (downloader : Downloader) (d : Document) : Fetched Scenario :=
  let d := { d with dest := trimSlashes d.dest }
  if d.dest.isEmpty then Fetched.fail (.missingField .dest)
  else do
    let apps ← Fetched.each (App.normalize downloader d) d.apps
    return ⟨{ d with apps }⟩

end Rollout
