import TokenScan.Failure

/-!
# Asking the surroundings

A run finds files and a standard input in its surroundings. What it wants to know of them it asks
for, one request after the other, and the reply decides how it goes on. An `Inquiry` is such a run
that has not been performed: a tree with a request at every node and a branch for every reply. So it
is settled in it not only what comes of a run, but also what the run has looked at.

`Inquiry.run` follows the branch for given surroundings. They are the same all the time, but for the
standard input: whoever reads it takes all there is.

## Main definitions

* `Request`, `Request.Reply` — what can be asked for, and the replies
* `Host` — the surroundings
* `Inquiry`, `Inquiry.run` — a run that may ask, and what comes of it

## Main results

* `Inquiry.run_bind` — of two runs one behind the other, the second one finds what the first one has
  left
-/

namespace TokenScan

/-- Something that a run may ask for. -/
inductive Request where
  /-- Whether there is a file or a directory at a path. -/
  | isThere (path : String)
  /-- The text of the file at a path. -/
  | file (path : String)
  /-- All that is left of the standard input. -/
  | standardInput
deriving DecidableEq

/-- The replies to a request. -/
@[reducible] def Request.Reply : Request → Type
  | .isThere _ => Bool
  | .file _ => Except SystemError String
  | .standardInput => Except SystemError String

/-- The surroundings of a run. -/
structure Host where
  /-- Whether there is a file or a directory at a path. -/
  isThere : String → Bool
  /-- The text of the file at a path. -/
  read : String → Except SystemError String
  /-- All of the standard input. -/
  standardInput : Except SystemError String
  /-- The value of an environment variable, if it has one. -/
  environment : String → Option String

namespace Host

/-- The text that bytes encode. -/
def decode (content : ByteArray) : Except SystemError String :=
  match String.fromUTF8? content with
  | some text => .ok text
  | none => .error .invalidUtf8

/-- The reply to a request. -/
def reply (host : Host) : (request : Request) → request.Reply
  | .isThere path => host.isThere path
  | .file path => host.read path
  | .standardInput => host.standardInput

/-- The surroundings behind a request. Nothing is left of a standard input that has been read. -/
def after (host : Host) : Request → Host
  | .standardInput => { host with standardInput := .ok "" }
  | _ => host

/-- The surroundings behind requests. -/
def past (host : Host) (requests : List Request) : Host := requests.foldl after host

@[simp] theorem past_cons (host : Host) (request : Request) (requests : List Request) :
    host.past (request :: requests) = (host.after request).past requests := rfl

theorem past_append (host : Host) (requests others : List Request) :
    host.past (requests ++ others) = (host.past requests).past others := List.foldl_append

/-- Files stay as they are. -/
@[simp] theorem read_past (host : Host) (requests : List Request) :
    (host.past requests).read = host.read := by
  induction requests generalizing host with
  | nil => rfl
  | cons request requests ih =>
    rw [past_cons, ih]
    cases request <;> rfl

/-- The standard input is there until it is asked for. -/
theorem standardInput_past (host : Host) (requests : List Request) :
    (host.past requests).standardInput =
      if .standardInput ∈ requests then .ok "" else host.standardInput := by
  induction requests generalizing host with
  | nil => rfl
  | cons request requests ih =>
    rw [past_cons, ih]
    cases request <;> simp [after]

end Host

/-- A run that may ask its surroundings before it comes to its value. -/
inductive Inquiry (α : Type) where
  /-- There is nothing more to ask. -/
  | done (value : α)
  /-- There is a request, and how to go on for every reply. -/
  | ask (request : Request) (next : request.Reply → Inquiry α)

namespace Inquiry

variable {α β : Type}

/-- Goes on with another run where one is done. -/
def bind : Inquiry α → (α → Inquiry β) → Inquiry β
  | .done value, next => next value
  | .ask request others, next => .ask request fun reply => (others reply).bind next

instance : Monad Inquiry where
  pure := done
  bind := bind

/-- Asks whether there is a file or a directory at a path. -/
def isThere (path : String) : Inquiry Bool := ask (.isThere path) done

/-- Asks for the text of the file at a path. -/
def file (path : String) : Inquiry (Except SystemError String) := ask (.file path) done

/-- Asks for all that is left of the standard input. -/
def standardInput : Inquiry (Except SystemError String) := ask .standardInput done

/-- What comes of a run in given surroundings, and what it has asked for, in order. -/
def run (host : Host) : Inquiry α → α × List Request
  | .done value => (value, [])
  | .ask request next =>
    let (value, requests) := run (host.after request) (next (host.reply request))
    (value, request :: requests)

@[simp] theorem run_pure (host : Host) (value : α) : run host (pure value) = (value, []) := rfl

@[simp] theorem run_file (host : Host) (path : String) :
    run host (file path) = (host.read path, [.file path]) := rfl

@[simp] theorem run_standardInput (host : Host) :
    run host standardInput = (host.standardInput, [.standardInput]) := rfl

/-- **One run behind another.** The second one finds the surroundings as the first one has left
them. -/
theorem run_bind (host : Host) (first : Inquiry α) (next : α → Inquiry β) :
    run host (first >>= next) =
      let (value, requests) := run host first
      let (result, others) := run (host.past requests) (next value)
      (result, requests ++ others) := by
  induction first generalizing host with
  | done value => rfl
  | ask request others ih =>
    have hnext := ih (host.reply request) (host.after request)
    change run host (ask request fun reply => others reply >>= next) = _
    simp only [run, hnext, Host.past_cons, List.cons_append]

end Inquiry

end TokenScan
