import Rehearsal.Calendar
import Rehearsal.Wire.Ids
import Rehearsal.World

/-! Who talks to the skill, and when: the clock is the world's, shifted by an offset. -/
namespace Rehearsal.Session
open Wire (Party)

structure Identity where
  applicationId : String
  userId : String
  accessToken : Option String := none
  locale : String := "en-US"
  /-- In seconds. -/
  offset : Int := 0
deriving DecidableEq

/-- A hundred years of 366 days. -/
def offsetLimit : Int := 100 * 366 * 24 * 60 * 60

def checkOffset (seconds : Int) : Except Failure Int :=
  if -offsetLimit ≤ seconds ∧ seconds ≤ offsetLimit then .ok seconds else .error (.config (.offset seconds))

structure Profile where
  applicationId : Option String := none
  userId : Option String := none
  accessToken : Option String := none
  locale : String := "en-US"
  offset : Int := 0
deriving DecidableEq

namespace Identity

def ofProfile (p : Profile) (application user : Nat) : Except Failure Identity := do
  let offset ← checkOffset p.offset
  return {
    applicationId := p.applicationId.getD (Wire.Ids.application application)
    userId := p.userId.getD (Wire.Ids.user user)
    accessToken := p.accessToken
    locale := p.locale
    offset }

def party (i : Identity) : Party :=
  { applicationId := i.applicationId, user := { id := i.userId, accessToken := i.accessToken } }

def timestamp (i : Identity) (now : Int) : Except Failure String :=
  let t := now + i.offset
  if Calendar.firstSecond ≤ t ∧ t ≤ Calendar.lastSecond then .ok (Calendar.stamp t)
  else .error (.config (.clock i.offset))

end Identity

def drawIdentity [Monad m] (w : Surroundings m) (p : Profile) : m (Except Failure Identity) := do
  let application ← w.draw Wire.Ids.uuidBound
  let user ← w.draw Wire.Ids.userBound
  return Identity.ofProfile p application user

end Rehearsal.Session
