import CyberRange.Network.Lookup

namespace CyberRange

/-! A network: its hosts, and the delay before each answer.

Random numbers and everything else that a run draws from outside come from a
`Feed`, so a run is a function of its feeds.
-/

/-- Values handed out in turn; the last one is handed out again and again. -/
structure Feed (α : Type) where
  next : α
  later : List α
deriving Repr

namespace Feed

def constant (value : α) : Feed α := { next := value, later := [] }

def ofList (fallback : α) : List α → Feed α
  | [] => constant fallback
  | first :: rest => { next := first, later := rest }

def take (feed : Feed α) : α × Feed α :=
  (feed.next,
    match feed.later with
    | [] => feed
    | following :: rest => { next := following, later := rest })

end Feed

/-- A window of delays in milliseconds, both ends included. -/
structure Latency where
  low : Nat
  high : Nat
  ordered : low ≤ high
deriving Repr, DecidableEq

structure InvalidLatency where
  low : Int
  high : Int
deriving Repr, DecidableEq

def InvalidLatency.message (invalid : InvalidLatency) : String :=
  "Invalid latency window (" ++ toString invalid.low ++ ", " ++ toString invalid.high ++ ")"

namespace Latency

def ofBounds (low high : Int) : Except InvalidLatency Latency :=
  if bounds : 0 ≤ low ∧ low ≤ high then
    .ok { low := low.toNat, high := high.toNat, ordered := by omega }
  else .error { low, high }

/-- The window of a network that is told nothing else. -/
def standard : Latency := { low := 200, high := 700, ordered := by decide }

def instant : Latency := { low := 0, high := 0, ordered := by decide }

/-- The whole numbers from here on are too large for a double: half a step beyond the
largest one. -/
def numberLimit : Nat := Nat.pow 2 1024 - Nat.pow 2 970

/-- Whether the numbers that a delay is computed from are small enough for doubles. -/
def isDrawable (window : Latency) : Bool :=
  window.low < numberLimit && window.high - window.low < numberLimit

/-- The delay in seconds for a random number between zero and one, if it can be computed. -/
def delay (window : Latency) (random : Float) : Option Float :=
  if window.isDrawable then
    some ((window.low.toFloat + (window.high - window.low).toFloat * random) / 1000.0)
  else none

end Latency

inductive DelayFault where
  | tooLarge
deriving Repr, DecidableEq

def DelayFault.kind : DelayFault → String
  | .tooLarge => "OverflowError"

def DelayFault.message : DelayFault → String
  | .tooLarge => "int too large to convert to float"

/-- Hosts behind a delay, with the delays drawn so far. -/
structure Network where
  hosts : Hosts
  latency : Latency
  random : Feed Float
  delays : List Float

namespace Network

def create (hosts : Hosts) (latency : Latency) (random : Feed Float) : Network :=
  { hosts, latency, random, delays := [] }

/-- Whether a fetch waits at all. -/
def isDelayed (network : Network) : Bool :=
  network.latency.high ≠ 0

/-- Draws the delay of one fetch, if fetches wait. -/
def draw (network : Network) : Except DelayFault Unit × Network :=
  if network.isDelayed then
    let (random, rest) := network.random.take
    match network.latency.delay random with
    | none => (.error .tooLarge, { network with random := rest })
    | some delay => (.ok (), { network with random := rest, delays := network.delays ++ [delay] })
  else (.ok (), network)

/-- Fetches that wait have a delay drawn for them, if there is one. -/
theorem draw_cases (network : Network) :
    (network.isDelayed = false ∧ network.draw = (.ok (), network)) ∨
      (network.isDelayed = true ∧ network.latency.isDrawable = false ∧
        network.draw = (.error .tooLarge, { network with random := network.random.take.2 })) ∨
      (network.isDelayed = true ∧ network.latency.isDrawable = true ∧ ∃ delay,
        network.draw = (.ok (), { network with
          random := network.random.take.2, delays := network.delays ++ [delay] })) := by
  cases delayed : network.isDelayed with
  | false => exact .inl ⟨rfl, by simp [draw, delayed]⟩
  | true =>
      cases drawable : network.latency.isDrawable with
      | false => exact .inr (.inl ⟨rfl, rfl, by simp [draw, delayed, Latency.delay, drawable]⟩)
      | true =>
          obtain ⟨delay, drawn⟩ : ∃ delay,
              network.latency.delay network.random.take.1 = some delay :=
            ⟨_, by rw [Latency.delay, if_pos drawable]⟩
          exact .inr (.inr ⟨rfl, rfl, delay, by simp [draw, delayed, drawn]⟩)

theorem isDrawable_of_not_delayed {network : Network} (instant : network.isDelayed = false) :
    network.latency.isDrawable = true := by
  have high : network.latency.high = 0 := by simpa [isDelayed] using instant
  have low : network.latency.low = 0 := by
    have ordered := network.latency.ordered
    omega
  rw [Latency.isDrawable, low, high]
  decide +kernel

theorem draw_of_drawable {network : Network} (drawable : network.latency.isDrawable = true) :
    network.draw.1 = .ok () ∧ network.draw.2.delays.length =
      network.delays.length + if network.latency.high = 0 then 0 else 1 := by
  rcases network.draw_cases with ⟨instant, drawn⟩ | ⟨-, oversized, -⟩ | ⟨delayed, -, delay, drawn⟩
  · have high : network.latency.high = 0 := by simpa [isDelayed] using instant
    simp [drawn, high]
  · rw [drawable] at oversized
    cases oversized
  · have high : network.latency.high ≠ 0 := by simpa [isDelayed] using delayed
    simp [drawn, high]

theorem draw_of_not_drawable {network : Network}
    (oversized : network.latency.isDrawable = false) :
    network.draw = (.error .tooLarge, { network with random := network.random.take.2 }) := by
  rcases network.draw_cases with ⟨instant, -⟩ | ⟨-, -, drawn⟩ | ⟨-, drawable, -⟩
  · rw [isDrawable_of_not_delayed instant] at oversized
    cases oversized
  · exact drawn
  · rw [drawable] at oversized
    cases oversized

/-- Waits and then answers. -/
def fetch (network : Network) (url : String) : Except DelayFault NetworkResponse × Network :=
  let (drawn, later) := network.draw
  (drawn.map fun _ => network.hosts.answer url, later)

theorem fetch_eq (network : Network) (url : String) :
    network.fetch url =
      (network.draw.1.map fun _ => network.hosts.answer url, network.draw.2) := rfl

end Network

end CyberRange
