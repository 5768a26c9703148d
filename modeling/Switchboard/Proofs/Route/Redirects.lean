import Switchboard.Proofs.Answer.Revalidation
import Switchboard.Proofs.Route.FileCache

/-!
# Redirects of static paths

A static path is redirected only to itself with a slash at its end, and only if it has none
(`StaticTable.bare_of_redirect`). A path with a slash at its end is never redirected, whatever the
routes, the files and the cache. So the client that is sent on once is not sent on again
(`StaticTable.redirected_once`).
-/

namespace Switchboard.StaticTable

variable {σ : Type}

/-- A redirect is of the path that was asked for, and this has no slash at its end. -/
theorem bare_of_redirect {t : StaticTable} {fs : FileSystem} {verb : Verb} {path q : String}
    {cache : FileCache} (h : (t.route (σ := σ) fs verb path cache).1 = .redirect q) :
    q = path ∧ Text.endsWith "/" path = false := by
  generalize route : t.route (σ := σ) fs verb path cache = answer at h
  cases looked route with
  | unopened none unopened =>
    cases unopened with
    | status code => cases h
    | nothing => cases h
    | redirect bare =>
      cases h
      exact ⟨rfl, bare⟩
  | opened opens loaded => cases loaded <;> cases h

theorem not_redirect_of_slash (t : StaticTable) (fs : FileSystem) (verb : Verb)
    (path q : String) (cache : FileCache) :
    (t.route (σ := σ) fs verb (path ++ "/") cache).1 ≠ .redirect q := by
  intro h
  have open_ : Text.endsWith "/" (path ++ "/") = true := Text.endsWith_iff.2 ⟨path, rfl⟩
  rw [(bare_of_redirect h).2] at open_
  cases open_

/-- What a dispatcher sends for a redirect. -/
theorem run_dispatch_redirect (d : Dispatcher) (now : Int) (path : String) (x : Exchange σ) :
    (d.dispatch now (.redirect path)).run.run x =
      (.ok true, { x with
        response := { x.response with status := 301 }.setHeader "location" (path ++ "/") }) := rfl

/-- A client that asks for a path is sent to another one by a static redirect: this is what the
response to its request says. The verb, the files and the cache are those of the moment. -/
def SentOn (σ : Type) (t : StaticTable) (d : Dispatcher) (path next : String) : Prop :=
  ∃ (fs : FileSystem) (verb : Verb) (cache : FileCache) (now : Int) (x : Exchange σ) (q : String),
    (t.route (σ := σ) fs verb path cache).1 = .redirect q ∧
    ((d.dispatch now (.redirect q)).run.run { x with response := {} }).2.response.headers.get?
      "location" = some next.toUTF8

theorem SentOn.next_eq {t : StaticTable} {d : Dispatcher} {path next : String}
    (h : SentOn σ t d path next) : next = path ++ "/" := by
  obtain ⟨fs, verb, cache, now, x, q, redirect, location⟩ := h
  obtain ⟨rfl, -⟩ := bare_of_redirect redirect
  rw [run_dispatch_redirect] at location
  have named : Headers.name? "location" = some "location" := by decide
  have same := Headers.eq_of_get?_set named (h := {}) rfl location
  exact String.toByteArray_inj.1 same

theorem SentOn.not_again {t : StaticTable} {d : Dispatcher} {path next last : String}
    (h : SentOn σ t d path next) : ¬ SentOn σ t d next last := by
  rintro ⟨fs, verb, cache, -, -, q, redirect, -⟩
  rw [h.next_eq] at redirect
  exact not_redirect_of_slash t fs verb path q cache redirect

/-- **A client is redirected once.** A redirect sends the client to the path with a slash at its end.
This path is not redirected: not then, and not after any changes of the files and the cache, by the
same verb or another one. So whatever paths a client is sent to one after the other, it is sent on
from the first of them at most. -/
theorem redirected_once (t : StaticTable) (d : Dispatcher) :
    (∀ fs verb path cache q, (t.route (σ := σ) fs verb path cache).1 = .redirect q →
      (∀ (now : Int) (x : Exchange σ), (d.dispatch now (.redirect q)).run.run x =
        (.ok true, { x with
          response := { x.response with status := 301 }.setHeader "location" (path ++ "/") })) ∧
      ∀ fs' verb' cache' q',
        (t.route (σ := σ) fs' verb' (path ++ "/") cache').1 ≠ .redirect q') ∧
    ∀ trail : List String, trail.IsChain (SentOn σ t d) → trail.length ≤ 2 := by
  constructor
  · intro fs verb path cache q h
    obtain ⟨rfl, -⟩ := bare_of_redirect h
    constructor
    · intro now x
      exact run_dispatch_redirect d now q x
    · intro fs' verb' cache' q'
      exact not_redirect_of_slash t fs' verb' q q' cache'
  · intro trail chain
    match trail, chain with
    | [], _ | [_], _ | [_, _], _ => simp
    | path :: next :: last :: rest, chain =>
      rw [List.isChain_cons_cons, List.isChain_cons_cons] at chain
      exact absurd chain.2.1 chain.1.not_again

/-- A directory and one inside of it. -/
def nested : FileSystem where
  directories := [["public"], ["public", "docs"]]

/-- The directory inside is redirected to, and the path with a slash leads to nothing. -/
theorem redirected_once_shelf :
    (shelf.route (σ := Unit) nested .get "/files/docs" (.ofCapacity 0)).1 =
        .redirect "/files/docs" ∧
      SentOn Unit shelf {} "/files/docs" "/files/docs/" ∧
      (shelf.route (σ := Unit) nested .get "/files/docs/" (.ofCapacity 0)).1 = .nothing ∧
      ¬ ["/files/docs", "/files/docs/", "/files/docs//"].IsChain (SentOn Unit shelf {}) := by
  have redirect : (shelf.route (σ := Unit) nested .get "/files/docs" (.ofCapacity 0)).1 =
      .redirect "/files/docs" := by rfl
  obtain ⟨sends, once⟩ := redirected_once (σ := Unit) shelf {}
  refine ⟨redirect, ?_, rfl, ?_⟩
  · refine ⟨nested, .get, .ofCapacity 0, 0, ⟨default, {}, ()⟩, "/files/docs", redirect, ?_⟩
    rw [(sends _ _ _ _ _ redirect).1]
    exact Headers.get?_set (by decide) (Headers.isValue_toUTF8 (by decide)) _
  · intro chain
    exact absurd (once _ chain) (by decide)

end Switchboard.StaticTable
