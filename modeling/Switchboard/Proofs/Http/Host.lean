import Switchboard.Proofs.Http.Header
import Switchboard.Proofs.Http.Request

/-!
# The host of a request

Host and port of a request come from its `host` header and from nothing else
(`Request.host_ofParts`, `Request.port_ofParts`): no other header, no target and no body changes
them. What is read as the host may stand in a header of the answer (`Request.isValue_host`).
-/

namespace Switchboard.Request

/-- Host and port of a header: what stands before and behind the first colon. -/
def readHost (text : String) : String × Nat :=
  match Text.cut? ':' text with
  | some (name, port) => (name, (Number.readNat? 65535 port).getD 80)
  | none => (text, 80)

/-- A request that says neither has the host and the port of its header. -/
theorem hostSaid_eq (headers : Headers) :
    hostSaid headers none 80 =
      ((headers.text? "host").map (fun text => (readHost text).1),
        ((headers.text? "host").map fun text => (readHost text).2).getD 80) := by
  unfold hostSaid readHost
  cases headers.text? "host" with
  | none => rfl
  | some text =>
    dsimp only [Option.map_some, Option.getD_some]
    cases Text.cut? ':' text <;> rfl

section Parts

variable (verb : Verb) (uri : String) (headers : Headers) (body : ByteArray)
  (remote : Option String)

/-- Host and port are what the header says they are, and nothing else says them. -/
theorem derived_ofParts :
    (ofParts verb uri headers body remote).host =
        (headers.text? "host").map (fun text => (readHost text).1) ∧
      (ofParts verb uri headers body remote).port =
        ((headers.text? "host").map fun text => (readHost text).2).getD 80 := by
  unfold ofParts
  rw [ofUri_frame]
  obtain ⟨host, port⟩ := host_derive
    { verb, path := (ofUri verb uri).path, query := (ofUri verb uri).query,
      params := (ofUri verb uri).params, headers, body, remoteAddress := remote }
  rw [host, port]
  dsimp only
  rw [hostSaid_eq]
  exact ⟨rfl, rfl⟩

/-- **The host is what the header says it is.** -/
theorem host_ofParts :
    (ofParts verb uri headers body remote).host =
      (headers.text? "host").map fun text => (readHost text).1 :=
  (derived_ofParts verb uri headers body remote).1

/-- **The port is what the header says it is, and 80 if it says none.** -/
theorem port_ofParts :
    (ofParts verb uri headers body remote).port =
      ((headers.text? "host").map fun text => (readHost text).2).getD 80 :=
  (derived_ofParts verb uri headers body remote).2

end Parts

/-- What is read as the host may stand in a header again. -/
theorem isValue_host {verb : Verb} {uri : String} {headers : Headers} {body : ByteArray}
    {remote : Option String} {host : String}
    (derived : (ofParts verb uri headers body remote).host = some host) :
    Headers.isValue host.toUTF8 = true := by
  rw [host_ofParts] at derived
  obtain ⟨text, said, rfl⟩ := Option.map_eq_some_iff.1 derived
  obtain ⟨bytes, -, read⟩ := Option.bind_eq_some_iff.1 said
  have whole := Headers.isValue_of_valueText? read
  unfold readHost
  cases cut : Text.cut? ':' text with
  | none => exact whole
  | some parts =>
    rw [Text.eq_append_of_cut?_eq_some cut, String.append_assoc] at whole
    exact (Headers.isValue_toUTF8_append.1 whole).1

end Switchboard.Request
