import Rollout.Scenario.Error

/-!
# Downloads

A downloader answers for an address and a scenario's suffix with the path of the file that it made,
or with the reason why it made none. A computation that may download keeps the requests that it made,
also when it fails.
-/

namespace Rollout

structure Download where
  url : String
  suffix : String
deriving DecidableEq, Repr

abbrev Downloader := Download → Except String String

/-- The downloader of a place without a network. -/
def Downloader.offline : Downloader := fun request =>
  .error ("error sending request for url (" ++ request.url ++ ")")

/-- The result of a computation and the downloads that it asked for, in order. -/
structure Fetched (α : Type) where
  downloads : List Download
  result : Except ScenarioError α

namespace Fetched

instance : Monad Fetched where
  pure value := ⟨[], .ok value⟩
  bind x f :=
    match x.result with
    | .ok value =>
      let next := f value
      ⟨x.downloads ++ next.downloads, next.result⟩
    | .error e => ⟨x.downloads, .error e⟩

def lift {α : Type} (result : Except ScenarioError α) : Fetched α :=
  ⟨[], result⟩

def fail {α : Type} (e : ScenarioError) : Fetched α :=
  lift (.error e)

def fetch (downloader : Downloader) (request : Download) : Fetched String :=
  ⟨[request], (downloader request).mapError (.downloadFailed request.url)⟩

/-- Runs a computation on each element of a list, up to the first failure. -/
def each {α β : Type} (f : α → Fetched β) : List α → Fetched (List β)
  | [] => pure []
  | a :: as => do
    let b ← f a
    let bs ← each f as
    return b :: bs

end Fetched

end Rollout
