import Rehearsal.Json.Value

/-! Responses of a skill. -/
namespace Rehearsal.Wire
open Json (Value Members)

inductive Speech where
  | ssml (text : String)
  | plainText (text : String)
deriving DecidableEq

structure CardImage where
  small : Option String := none
  large : Option String := none
deriving DecidableEq

/-- Cards of other types are known to be there and no more. -/
inductive Card where
  | simple (title content : String)
  | standard (title text : String) (image : Option CardImage)
  | linkAccount (title : Option String)
  | unsupported
deriving DecidableEq

inductive PlayBehavior where
  | replaceAll
  | enqueue
  | replaceEnqueued
deriving DecidableEq

inductive ClearBehavior where
  | clearAll
  | clearEnqueued
deriving DecidableEq

structure Stream where
  url : Option String := none
  token : Option String := none
  previousToken : Option String := none
  offset : Int := 0
deriving DecidableEq

structure AudioItem where
  stream : Option Stream := none
deriving DecidableEq

inductive Directive where
  | play (behavior : PlayBehavior) (item : Option AudioItem)
  | stop
  | clearQueue (behavior : ClearBehavior)
  | unsupported
deriving DecidableEq

structure Reprompt where
  speech : Option Speech := none
deriving DecidableEq

structure Body where
  shouldEnd : Option Bool := none
  speech : Option Speech := none
  reprompt : Option Reprompt := none
  card : Option Card := none
  directives : List Directive := []
deriving DecidableEq

structure Response where
  version : String := ""
  attributes : Option Members := none
  body : Body := {}

def Speech.text : Speech → String
  | .ssml t | .plainText t => t

namespace PlayBehavior

def all : List PlayBehavior := [.replaceAll, .enqueue, .replaceEnqueued]

def wireName : PlayBehavior → String
  | .replaceAll => "REPLACE_ALL"
  | .enqueue => "ENQUEUE"
  | .replaceEnqueued => "REPLACE_ENQUEUED"

def ofName? (name : String) : Option PlayBehavior :=
  all.find? (·.wireName = name)

end PlayBehavior

namespace ClearBehavior

def all : List ClearBehavior := [.clearAll, .clearEnqueued]

def wireName : ClearBehavior → String
  | .clearAll => "CLEAR_ALL"
  | .clearEnqueued => "CLEAR_ENQUEUED"

def ofName? (name : String) : Option ClearBehavior :=
  all.find? (·.wireName = name)

end ClearBehavior

namespace Directive

def isPlay : Directive → Bool
  | .play .. => true
  | _ => false

def isStop : Directive → Bool
  | .stop => true
  | _ => false

def isClearQueue : Directive → Bool
  | .clearQueue _ => true
  | _ => false

end Directive

namespace Response

def shouldEnd (r : Response) : Option Bool := r.body.shouldEnd
def speech (r : Response) : Option Speech := r.body.speech
def repromptSpeech (r : Response) : Option Speech := r.body.reprompt.bind (·.speech)
def card (r : Response) : Option Card := r.body.card
def directives (r : Response) : List Directive := r.body.directives

def play? (r : Response) : Option Directive := r.directives.find? (·.isPlay)
def stop? (r : Response) : Option Directive := r.directives.find? (·.isStop)
def clearQueue? (r : Response) : Option Directive := r.directives.find? (·.isClearQueue)

/-- Does the response close the session? -/
def ends (r : Response) : Bool := r.shouldEnd.getD false

end Response
end Rehearsal.Wire
