import Switchboard.Call.Action

/-!
# Pushes

A push calls a handler again and again and sends what it replies to the channels of a path.
-/

namespace Switchboard

/-- For whom a push calls its handler. -/
inductive PushEvent where
  /-- Once for all channels of the path. -/
  | periodic
  /-- For each channel, with the request that opened it. -/
  | request
  deriving DecidableEq, Repr

/-- A push under its path. -/
structure Push (σ : Type) where
  path : String
  /-- The milliseconds before each call. -/
  delay : Nat
  event : PushEvent
  handler : Handler σ

end Switchboard
