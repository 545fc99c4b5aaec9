import CharDispatch.Fault

/-!
# Cancellation

A pass can be asked to stop.  The request is made once and never taken back;
what matters to a pass is how many questions its host has answered when the
request is first visible.

`CancellationTokens` keeps the requests of several passes apart: a token and
its clones share one request.
-/

namespace CharDispatch

/-- When a pass is asked to stop: after how many calls to its host, if ever. -/
structure Cancellation where
  afterCalls : Option Nat
deriving DecidableEq, Repr

namespace Cancellation

/-- Nobody asks the pass to stop. -/
def never : Cancellation := ⟨none⟩

/-- The pass is asked to stop before it begins. -/
def beforehand : Cancellation := ⟨some 0⟩

/-- The pass is asked to stop while its host answers call number `n`. -/
def duringCall (n : Nat) : Cancellation := ⟨some n⟩

/-- Whether the request is visible once `calls` calls have been answered. -/
def isRequested (cancellation : Cancellation) (calls : Nat) : Bool :=
  cancellation.afterCalls.any (· ≤ calls)

end Cancellation

/-- Tokens in the order of their creation.  Every token knows the request it
stands for, and the requests that were made are kept. -/
structure CancellationTokens where
  requestOf : List Nat
  requested : List Nat
deriving DecidableEq, Repr

namespace CancellationTokens

/-- No tokens. -/
def none : CancellationTokens := ⟨[], []⟩

/-- A further token with a request of its own.  It takes the place of the token
as the number of the request, so no earlier token can have it. -/
def create (tokens : CancellationTokens) : CancellationTokens :=
  { tokens with requestOf := tokens.requestOf ++ [tokens.requestOf.length] }

/-- A further token for the request of token `index`. -/
def clone (tokens : CancellationTokens) (index : Nat) : CancellationTokens :=
  match tokens.requestOf[index]? with
  | some request => { tokens with requestOf := tokens.requestOf ++ [request] }
  | .none => tokens

/-- Makes the request of token `index`. -/
def cancel (tokens : CancellationTokens) (index : Nat) : CancellationTokens :=
  match tokens.requestOf[index]? with
  | some request => { tokens with requested := request :: tokens.requested }
  | .none => tokens

/-- For every token, whether its request was made. -/
def areCancelled (tokens : CancellationTokens) : List Bool :=
  tokens.requestOf.map tokens.requested.contains

/-- What a token that was or was not cancelled answers when it is checked. -/
def check (isCancelled : Bool) : Except Fault Unit :=
  if isCancelled then .error .cancelled else .ok ()

end CancellationTokens

end CharDispatch
