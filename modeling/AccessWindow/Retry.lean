import AccessWindow.Time.Instant

namespace AccessWindow

open Time

structure Retry where
  attempts : Nat
  pause : Duration
  positive : 0 < attempts
  deriving DecidableEq

namespace Retry

def of (attempts : Nat) (pause : Duration) : Retry := ⟨max attempts 1, pause, by omega⟩

def standard : Retry := of 3 (Duration.ofSeconds 2)

def allowsAfter (r : Retry) (n : Nat) : Bool := n < r.attempts

def pauseAfter (r : Retry) (n : Nat) : Duration := min (r.pause * n) Duration.longest

end Retry

end AccessWindow
