import CloudClient.Http.Channel
import CloudClient.Http.WireLog

/-!
# Conversations

To authenticate is to send a request, look at the reply, and perhaps send
another. A `Conversation` is that as a value: it has ended with an outcome,
or it sends a request and goes on in dependence on the reply. It neither
knows nor changes anything besides, so what it says depends on the replies
alone, and the same conversation can be held with a list of replies
(`Conversation.hold`) or inside a call, where other things happen meanwhile.

Two conversations one after the other are one conversation
(`Conversation.andThen`), and its transcript is that of the first followed by
that of the second: `hold_andThen`.
-/

namespace CloudClient

/-- What one side says in dependence on what the other answers. -/
inductive Conversation (α : Type) where
  /-- Nothing more is said. -/
  | ended (outcome : α)
  /-- A request is sent, and the reply decides how it goes on. -/
  | sends (request : Request) (next : Reply → Conversation α)

/-- **The transcript of a conversation**: its outcome, what was said, and the
replies that were not asked for. -/
structure Transcript (α : Type) where
  outcome : α
  /-- The requests with their replies, in order. -/
  exchanges : List (Request × Reply)
  /-- The replies that are left. -/
  left : List Reply

/-- The reply of a side that has none left. -/
def Reply.silence : Reply := .failure ⟨"ConnectionError", "no scripted response"⟩

namespace Transcript

variable {α : Type}

/-- The transcript with one more exchange in front. -/
def after (request : Request) (reply : Reply) (t : Transcript α) : Transcript α :=
  { t with exchanges := (request, reply) :: t.exchanges }

/-- The requests of a transcript. -/
def requests (t : Transcript α) : List Request := t.exchanges.map Prod.fst

/-- What the wire log has of a transcript. -/
def wireLog (t : Transcript α) : List WireLog.Record :=
  t.exchanges.flatMap fun e => WireLog.ofExchange e.1 e.2

end Transcript

namespace Conversation

variable {α β : Type}

/-- A conversation and the one that its outcome leads to. -/
def andThen (c : Conversation α) (f : α → Conversation β) : Conversation β :=
  match c with
  | ended a => f a
  | sends request next => sends request fun reply => (next reply).andThen f

@[simp] theorem andThen_ended (a : α) (f : α → Conversation β) : (ended a).andThen f = f a := rfl

@[simp] theorem andThen_sends (request : Request) (next : Reply → Conversation α)
    (f : α → Conversation β) :
    (sends request next).andThen f = sends request fun reply => (next reply).andThen f := rfl

/-- One exchange: the conversation goes on with the response, or with the
fault that the network makes. -/
def exchange (request : Request) (onFault : Fault → Conversation α)
    (onResponse : Response → Conversation α) : Conversation α :=
  sends request fun reply =>
    match Channel.receive request reply with
    | .error fault => onFault fault
    | .ok response => onResponse response

/-- The conversation held with a list of replies. -/
def hold (c : Conversation α) (replies : List Reply) : Transcript α :=
  match c with
  | ended a => ⟨a, [], replies⟩
  | sends request next =>
    match replies with
    | [] => ((next .silence).hold []).after request .silence
    | reply :: more => ((next reply).hold more).after request reply

@[simp] theorem hold_ended (a : α) (replies : List Reply) :
    (ended a).hold replies = ⟨a, [], replies⟩ := rfl

/-- Two conversations one after the other say what the first says and then
what the second does. -/
theorem hold_andThen (c : Conversation α) (f : α → Conversation β) (replies : List Reply) :
    (c.andThen f).hold replies =
      let first := c.hold replies
      let second := (f first.outcome).hold first.left
      ⟨second.outcome, first.exchanges ++ second.exchanges, second.left⟩ := by
  induction c generalizing replies with
  | ended a => simp
  | sends request next ih =>
    cases replies with
    | nil => simp [hold, ih, Transcript.after]
    | cons reply more => simp [hold, ih, Transcript.after]

/-! ## Ends

Where a conversation ends depends on what is answered. What holds of all its
ends is shown by going through it, with the exchange before an end in view.
-/

/-- **Every end of a conversation** is related to the exchange before it;
`last` is the one before the conversation. -/
inductive Ends (P : Option (Request × Reply) → α → Prop) :
    Option (Request × Reply) → Conversation α → Prop where
  | ended {last : Option (Request × Reply)} {a : α} (h : P last a) : Ends P last (.ended a)
  | sends {last : Option (Request × Reply)} {request : Request} {next : Reply → Conversation α}
      (h : ∀ reply, Ends P (some (request, reply)) (next reply)) :
      Ends P last (.sends request next)

/-- An exchange ends where its ways on do. -/
theorem Ends.exchange {P : Option (Request × Reply) → α → Prop} {last : Option (Request × Reply)}
    {request : Request} {onFault : Fault → Conversation α} {onResponse : Response → Conversation α}
    (hfault : ∀ failure, Ends P (some (request, .failure failure))
      (onFault (.network request.method request.url failure)))
    (hresponse : ∀ response, Ends P (some (request, .response response)) (onResponse response)) :
    Ends P last (.exchange request onFault onResponse) := by
  refine .sends fun reply => ?_
  cases reply with
  | failure failure => exact hfault failure
  | response response => exact hresponse response

theorem Ends.imp {P Q : Option (Request × Reply) → α → Prop} {last : Option (Request × Reply)}
    {c : Conversation α} (h : Ends P last c) (hPQ : ∀ last a, P last a → Q last a) :
    Ends Q last c := by
  induction h with
  | ended h => exact .ended (hPQ _ _ h)
  | sends _ ih => exact .sends ih

/-- A conversation that is held has come to one of its ends. -/
theorem Ends.hold {P : Option (Request × Reply) → α → Prop} {last : Option (Request × Reply)}
    {c : Conversation α} (h : Ends P last c) (replies : List Reply) :
    P ((c.hold replies).exchanges.getLast?.or last) (c.hold replies).outcome := by
  have hlast (last : Option (Request × Reply)) (e : Request × Reply)
      (exchanges : List (Request × Reply)) :
      (e :: exchanges).getLast?.or last = exchanges.getLast?.or (some e) := by
    rw [List.getLast?_cons]
    cases exchanges.getLast? <;> rfl
  induction h generalizing replies with
  | ended h => exact h
  | @sends last request next _ ih =>
    cases replies with
    | nil =>
      have h := ih .silence []
      rwa [← hlast last] at h
    | cons reply more =>
      have h := ih reply more
      rwa [← hlast last] at h

end Conversation

end CloudClient
