import Rehearsal.Proofs.Transport.Errand

/-!
Tokens over a whole run. Which tokens a link has follows from what it posted: those handed out last, and until then those
it began with. Every post and every exchange is made with the tokens that stood when it was made.
-/
namespace Rehearsal
open Settings (OAuth)
open Transport
open Wire (Kind)

namespace Transport.Trail

def grants (t : Trail) : List Grant := t.filterMap Errand.grant?

def token (t : Trail) (first : Option String) : Option String :=
  (t.grants.getLast?.map (·.accessToken)).or first

/-- The refresh token handed out last; not every exchange hands one out. -/
def refreshToken (t : Trail) (first : String) : String :=
  (t.grants.filterMap (·.refreshToken)).getLast?.getD first

variable (t u : Trail)

theorem grants_append : grants (t ++ u) = t.grants ++ u.grants := List.filterMap_append

theorem token_append (first : Option String) : token (t ++ u) first = u.token (t.token first) := by
  rw [token, grants_append, List.getLast?_append]
  cases last : u.grants.getLast? <;> simp [token, last]

theorem refreshToken_append (first : String) : refreshToken (t ++ u) first = u.refreshToken (t.refreshToken first) := by
  rw [refreshToken, grants_append, List.filterMap_append, List.getLast?_append]
  cases last : (u.grants.filterMap (·.refreshToken)).getLast? <;> simp [refreshToken, last]

end Transport.Trail

def Settings.OAuth.after (o : OAuth) (t : Trail) : OAuth := { o with refreshToken := t.refreshToken o.refreshToken }

namespace Transport.Link

def after (l : Link) (t : Trail) : Link := { l with token := t.token l.token, oauth := l.oauth.map (·.after t) }

variable {l : Link} {kind : Kind} {body : List UInt8} {sent : Trail} {x : Answer} {l' : Link}

theorem after_append (l : Link) (t u : Trail) : l.after (t ++ u) = (l.after t).after u := by
  simp [after, OAuth.after, Trail.token_append, Trail.refreshToken_append, Function.comp_def]

theorem after_of_no_grants {t : Trail} (none_granted : t.grants = []) : l.after t = l := by
  obtain ⟨endpoint, token, oauth⟩ := l
  cases oauth <;> simp [after, OAuth.after, Trail.token, Trail.refreshToken, none_granted]

def Sends (l : Link) (e : Errand) : Prop :=
  match e.isExchange with
  | false => ∃ body, e.dispatch = l.dispatch body
  | true => ∃ o, l.oauth = some o ∧ e.dispatch = o.refreshDispatch

theorem sends_dispatch (l : Link) (body : List UInt8) (outcome : Except String Reply) :
    l.Sends ⟨l.dispatch body, outcome⟩ := by
  rw [Sends, isExchange_dispatch]
  exact ⟨body, rfl⟩

theorem sends_refreshDispatch {o : OAuth} (oauth : l.oauth = some o) (outcome : Except String Reply) :
    l.Sends ⟨o.refreshDispatch, outcome⟩ := by
  rw [Sends, isExchange_refreshDispatch]
  exact ⟨o, oauth, rfl⟩

theorem grant?_dispatch (l : Link) (body : List UInt8) (outcome : Except String Reply) :
    Errand.grant? ⟨l.dispatch body, outcome⟩ = none := by
  cases outcome <;> simp [Errand.grant?, isExchange_dispatch]

theorem grant?_of_granted {o : OAuth} {outcome : Except String Reply} {g : Grant} (granted : OAuth.grant outcome = .ok g) :
    Errand.grant? ⟨o.refreshDispatch, outcome⟩ = some g := by
  obtain ⟨g', granted', found⟩ | ⟨f, failed, -⟩ := grant_of_outcome (isExchange_refreshDispatch o outcome)
  · rw [found, Except.ok.inj (granted'.symm.trans granted)]
  · cases granted.symm.trans failed

theorem grant?_of_failed {o : OAuth} {outcome : Except String Reply} {f : Failure} (failed : OAuth.grant outcome = .error f) :
    Errand.grant? ⟨o.refreshDispatch, outcome⟩ = none := by
  obtain ⟨g, granted, -⟩ | ⟨_, -, none_found⟩ := grant_of_outcome (isExchange_refreshDispatch o outcome)
  · cases granted.symm.trans failed
  · exact none_found

theorem after_dispatch (l : Link) (body : List UInt8) (outcome : Except String Reply) :
    l.after [⟨l.dispatch body, outcome⟩] = l :=
  after_of_no_grants (by simp [Trail.grants, grant?_dispatch])

theorem after_of_granted {o : OAuth} {outcome : Except String Reply} {g : Grant} (oauth : l.oauth = some o)
    (granted : OAuth.grant outcome = .ok g) : l.after [⟨o.refreshDispatch, outcome⟩] = l.renewed o g := by
  have found : Trail.grants [⟨o.refreshDispatch, outcome⟩] = [g] := by simp [Trail.grants, grant?_of_granted granted]
  cases rotated : g.refreshToken <;>
    simp [after, OAuth.after, renewed, oauth, Trail.token, Trail.refreshToken, found, rotated]

end Transport.Link

namespace Transport.Trail
open Link

def Proper (l : Link) (t : Trail) : Prop := ∀ i e, t[i]? = some e → (l.after (t.take i)).Sends e

variable {l : Link} {t u : Trail}

theorem proper_singleton {e : Errand} (sends : l.Sends e) : Proper l [e] := by
  intro i e' at_i
  cases i with
  | zero =>
    obtain rfl := Option.some.inj at_i
    exact (after_of_no_grants (l := l) (t := []) rfl).symm ▸ sends
  | succ i => cases at_i

theorem Proper.append (h : Proper l t) (h' : Proper (l.after t) u) : Proper l (t ++ u) := by
  intro i e at_i
  rw [List.take_append]
  by_cases early : i < t.length
  · rw [List.getElem?_append_left early] at at_i
    rw [Nat.sub_eq_zero_of_le (Nat.le_of_lt early), List.take_zero, List.append_nil]
    exact h i e at_i
  · have late : t.length ≤ i := Nat.le_of_not_lt early
    rw [List.getElem?_append_right late] at at_i
    rw [List.take_of_length_le late, after_append]
    exact h' _ e at_i

end Transport.Trail

namespace Transport.Link

variable {l : Link} {kind : Kind} {body : List UInt8} {sent : Trail} {x : Answer} {l' : Link}

theorem Fired.follows (fired : Fired l kind body sent x l') : l' = l.after sent ∧ sent.Proper l := by
  cases fired with
  | settled => exact ⟨(after_dispatch ..).symm, Trail.proper_singleton (sends_dispatch ..)⟩
  | @denied r o outcome f _ oauth failed =>
    have posted := after_dispatch l body (.ok r)
    have asked : l.after [⟨o.refreshDispatch, outcome⟩] = l := after_of_no_grants (by simp [Trail.grants, grant?_of_failed failed])
    refine ⟨?_, (Trail.proper_singleton (sends_dispatch ..)).append (t := [_]) (u := [_]) ?_⟩
    · rw [← List.singleton_append, after_append, posted, asked]
    · rw [posted]
      exact Trail.proper_singleton (sends_refreshDispatch oauth _)
  | @retried r o outcome second g _ oauth granted =>
    have posted := after_dispatch l body (.ok r)
    have asked := after_of_granted oauth granted
    have again := after_dispatch (l.renewed o g) body second
    refine ⟨?_, (Trail.proper_singleton (sends_dispatch ..)).append (t := [_]) (u := [_, _]) ?_⟩
    · rw [← List.singleton_append, after_append, posted, ← List.singleton_append, after_append, asked, again]
    · rw [posted]
      refine (Trail.proper_singleton (sends_refreshDispatch oauth _)).append (t := [_]) (u := [_]) ?_
      rw [asked]
      exact Trail.proper_singleton (sends_dispatch ..)

end Transport.Link
end Rehearsal
