import Farsounder.Subscriber.Order

namespace Farsounder.Subscriber.System

open Config
open Farsounder.Data

variable {κ : Type}

/-! Exceptions of callbacks.  Nothing between a callback and the function that
its thread runs catches them. -/

variable {environment : Environment} {system after : System κ}
  {allowed : System κ → Label κ → Prop}

end Farsounder.Subscriber.System
