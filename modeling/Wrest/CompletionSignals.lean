/-!
# The callback-to-future bridge

A completion signal is a slot for the sending half of a one-shot channel.
Installing a listener makes a fresh channel and replaces the sender, dropping
an unconsumed one; signalling takes the sender and sends through it, and does
nothing when the slot is empty.

The model keeps every channel made so far, named by its position, so that a
listener can still be polled after its sender has been replaced.
-/

namespace Wrest

/-- The sender was dropped without signalling. -/
inductive SignalCancelled
  | cancelled
deriving DecidableEq, Repr

/-- A one-shot channel as its receiver sees it. -/
inductive Channel (T : Type)
  | empty
  | full (value : T)
  | closed
deriving DecidableEq, Repr

/-- The signal together with the channels made by its listeners.  A sender
that is still installed has not sent yet. -/
structure CompletionSignal (T : Type) where
  sender : Option Nat
  channels : List (Channel T)
  armed : ∀ listener, sender = some listener →
    channels[listener]? = some .empty

namespace CompletionSignal

variable {T : Type}

def new : CompletionSignal T where
  sender := none
  channels := []
  armed := nofun

/-- The channels after the installed sender, if any, is dropped. -/
def dropSender (signal : CompletionSignal T) : List (Channel T) :=
  match signal.sender with
  | some listener => signal.channels.set listener .closed
  | none => signal.channels

@[simp]
theorem dropSender_length (signal : CompletionSignal T) :
    signal.dropSender.length = signal.channels.length := by
  unfold dropSender
  split <;> simp

/-- The name of the listener that the next `listen` installs. -/
def nextListener (signal : CompletionSignal T) : Nat :=
  signal.channels.length

/-- Install a fresh listener, silently replacing an unconsumed sender. -/
def listen (signal : CompletionSignal T) : CompletionSignal T where
  sender := some signal.nextListener
  channels := signal.dropSender ++ [.empty]
  armed := by
    rintro listener ⟨rfl⟩
    simp [nextListener]

/-- Signal the current listener; a no-op when none is installed. -/
def signal (signal : CompletionSignal T) (value : T) : CompletionSignal T where
  sender := none
  channels :=
    match signal.sender with
    | some listener => signal.channels.set listener (.full value)
    | none => signal.channels
  armed := nofun

/-- Poll the future of a listener; `none` is pending. -/
def poll (signal : CompletionSignal T) (listener : Nat) :
    Option (Except SignalCancelled T) :=
  match signal.channels[listener]? with
  | some (.full value) => some (.ok value)
  | some .closed => some (.error .cancelled)
  | _ => none

@[simp]
theorem listen_sender (signal : CompletionSignal T) :
    signal.listen.sender = some signal.nextListener :=
  rfl

theorem poll_of_sender {signal : CompletionSignal T} {listener : Nat}
    (installed : signal.sender = some listener) :
    signal.poll listener = none := by
  simp [poll, signal.armed listener installed]

/-- The installed listener receives what is signalled. -/
theorem poll_signal {signal : CompletionSignal T} {listener : Nat}
    (installed : signal.sender = some listener) (value : T) :
    (signal.signal value).poll listener = some (.ok value) := by
  have bound : listener < signal.channels.length := by
    have found := signal.armed listener installed
    exact (List.getElem?_eq_some_iff.mp found).1
  simp [poll, CompletionSignal.signal, installed, bound]

/-- Without a listener, a signal changes nothing. -/
theorem signal_of_vacant {signal : CompletionSignal T} (vacant : signal.sender = none)
    (value : T) : signal.signal value = signal := by
  obtain ⟨sender, channels, armed⟩ := signal
  cases vacant
  rfl

/-- Only the installed listener receives what is signalled. -/
theorem poll_signal_of_ne {signal : CompletionSignal T} {listener : Nat}
    (other : signal.sender ≠ some listener) (value : T) :
    (signal.signal value).poll listener = signal.poll listener := by
  have kept : (signal.signal value).channels[listener]? = signal.channels[listener]? := by
    simp only [CompletionSignal.signal]
    split
    · next current installed =>
      have different : current ≠ listener := fun same => other (by rw [installed, same])
      exact List.getElem?_set_ne different
    · rfl
  simp only [poll, kept]

/-- A fresh listener cancels the one that it replaces, and no other. -/
theorem poll_listen {signal : CompletionSignal T} {listener : Nat}
    (known : listener < signal.channels.length) :
    signal.listen.poll listener =
      if signal.sender = some listener then some (.error .cancelled)
      else signal.poll listener := by
  have before : signal.listen.channels[listener]? = signal.dropSender[listener]? :=
    List.getElem?_append_left (by rwa [dropSender_length])
  simp only [poll, before, dropSender]
  cases signal.sender with
  | none => rfl
  | some current =>
    by_cases same : current = listener
    · subst same
      simp [known]
    · simp [List.getElem?_set_ne same, same]

/-- The signal is dropped together with an installed sender. -/
def drop (signal : CompletionSignal T) : CompletionSignal T where
  sender := none
  channels := signal.dropSender
  armed := nofun

end CompletionSignal

end Wrest
