import Turnstile.Proofs.Gateway.Start
import Turnstile.Proofs.Net.EndpointText

/-!
# The address that the service listens on

The service listens on the host of its configuration, with the port after a colon.  That
is the printed text of an endpoint if the host is an IPv4 address, or an IPv6 address in
brackets.  An IPv6 address as it is printed has no brackets, and a service with such a
host stops before it listens.
-/

namespace Turnstile

open Net Settings Text

/-! ## Texts -/

namespace Settings.Config

variable {config : Config}

theorem toList_serverAddress (config : Config) :
    config.serverAddress.toList =
      config.host.toList ++ ':' :: decimal config.port.toNat := by
  have port : (decimalText config.port.toNat).toList = decimal config.port.toNat :=
    String.toList_ofList
  rw [serverAddress, String.toList_append, String.toList_append, port, List.append_assoc]
  rfl

theorem read?_serverAddress_of_v4
    {bits : BitVec 32}
    (hosted : config.host = String.ofList (Address.print (.v4 bits))) :
    Endpoint.read? config.serverAddress.toList =
      some { address := .v4 bits, scope := 0, port := config.port } := by
  rw [toList_serverAddress, hosted, String.toList_ofList]
  exact Endpoint.read?_print ⟨.v4 bits, 0, config.port⟩ fun _ _ => rfl

theorem read?_serverAddress_of_v6
    {bits : BitVec 128}
    (hosted : config.host = String.ofList (Address.print (.v6 bits))) :
    Endpoint.read? config.serverAddress.toList = none := by
  rw [toList_serverAddress, hosted, String.toList_ofList]
  exact Endpoint.read?_printV6_eq_none bits _

/-- The same configuration with its host in brackets. -/
def bracketed (config : Config) : Config :=
  { config with host := "[" ++ config.host ++ "]" }

theorem read?_serverAddress_bracketed
    {bits : BitVec 128}
    (hosted : config.host = String.ofList (Address.print (.v6 bits))) :
    Endpoint.read? config.bracketed.serverAddress.toList =
      some { address := .v6 bits, scope := 0, port := config.port } := by
  have text : config.bracketed.serverAddress.toList =
      Endpoint.print { address := .v6 bits, scope := 0, port := config.port } := by
    have host : config.bracketed.host.toList = '[' :: (Address.printV6 bits ++ [']']) := by
      simp only [bracketed, hosted, String.toList_append, String.toList_ofList]
      rfl
    have scope : Endpoint.scopeText 0 = [] := rfl
    rw [toList_serverAddress, host, Endpoint.print_v6, scope, List.append_nil,
      List.cons_append, List.append_assoc]
    rfl
  rw [text]
  exact Endpoint.read?_print _ nofun

end Settings.Config

/-! ## Starts -/

namespace Startup

/-- The line on a server address that is no endpoint. -/
def addressFailure : LogLine :=
  failure "Invalid server address: invalid socket address syntax"

/-- A valid configuration is refused for its server address alone. -/
theorem bringUp_misconfigured_iff
    {config : Config}
    (validated : config.validate = .ok ())
    (machine : Machine)
    (clock : Clock) :
    (bringUp machine clock config).2 = .error .misconfigured ↔
      Endpoint.read? config.serverAddress.toList = none := by
  obtain ⟨gateway, started⟩ :=
    (Gateway.exists_start_iff config clock).2 (config.validate_eq_ok_iff.1 validated)
  rw [bringUp, started]
  dsimp only
  split
  · next unread => simp [unread]
  · next endpoint read =>
      rw [read]
      split <;> simp

theorem getLast?_bringUp
    {config : Config}
    (validated : config.validate = .ok ())
    (unread : Endpoint.read? config.serverAddress.toList = none)
    (machine : Machine)
    (clock : Clock) :
    (bringUp machine clock config).1.getLast? = some addressFailure := by
  obtain ⟨gateway, started⟩ :=
    (Gateway.exists_start_iff config clock).2 (config.validate_eq_ok_iff.1 validated)
  rw [bringUp, started]
  simp only [unread]
  exact List.getLast?_concat ..

theorem launch_of_read
    {environment : Environment}
    {file : Option String}
    {config : Config}
    (read : Config.ofEnvironment environment file = .ok config)
    (machine : Machine)
    (clock : Clock) :
    launch environment file machine clock =
      (greeting :: (bringUp machine clock config).1,
        (bringUp machine clock config).2) := by
  rw [launch, read]

end Startup

/-- For a host that is the printed text of an address, the server address is read as the
endpoint with that address and port exactly if the address is IPv4.  For an IPv6 address
it is no endpoint; it is one if the host is put in brackets.  A program that has read
such a configuration stops as misconfigured exactly for an IPv6 address, and the last
that it logs is that its server address is invalid. -/
theorem Startup.printed_host_starts_iff_v4
    {config : Config}
    {address : Address}
    (hosted : config.host = String.ofList address.print) :
    let endpoint : Endpoint := { address, scope := 0, port := config.port }
    (Endpoint.read? config.serverAddress.toList = some endpoint ↔
        ∃ bits, address = .v4 bits) ∧
      (∀ bits, address = .v6 bits →
        Endpoint.read? config.serverAddress.toList = none ∧
          Endpoint.read? config.bracketed.serverAddress.toList = some endpoint) ∧
      ∀ environment file, Config.ofEnvironment environment file = .ok config →
        ∀ machine clock,
          ((launch environment file machine clock).2 = .error .misconfigured ↔
              ∃ bits, address = .v6 bits) ∧
            ∀ bits, address = .v6 bits →
              (launch environment file machine clock).1.getLast? =
                some addressFailure := by
  cases address with
  | v4 bits =>
      have read := config.read?_serverAddress_of_v4 hosted
      refine ⟨iff_of_true read ⟨bits, rfl⟩, nofun, ?_⟩
      intro environment file loaded machine clock
      have validated := config.validate_of_ofEnvironment loaded
      rw [launch_of_read loaded, bringUp_misconfigured_iff validated, read]
      exact ⟨iff_of_false nofun nofun, nofun⟩
  | v6 bits =>
      have unread := config.read?_serverAddress_of_v6 hosted
      refine ⟨iff_of_false (by rw [unread]; nofun) nofun, ?_, ?_⟩
      · intro _ _
        exact ⟨unread, config.read?_serverAddress_bracketed hosted⟩
      intro environment file loaded machine clock
      have validated := config.validate_of_ofEnvironment loaded
      rw [launch_of_read loaded]
      refine ⟨iff_of_true ?_ ⟨bits, rfl⟩, fun _ _ => ?_⟩
      · exact (bringUp_misconfigured_iff validated machine clock).2 unread
      · have last := getLast?_bringUp validated unread machine clock
        rw [List.getLast?_cons, last]
        rfl

/-- The host `10.0.0.1` is read together with its port, and a program does not stop for
it. -/
theorem Startup.private_host_starts :
    let address : Address := .v4 0x0A000001
    let config : Config := { Config.standard with host := "10.0.0.1", port := 8080 }
    let environment : Environment :=
      { entries := [("HOST", Utf8.encode "10.0.0.1"), ("PORT", Utf8.encode "8080")] }
    config.host = String.ofList address.print ∧
      Config.ofEnvironment environment none = .ok config ∧
      Endpoint.read? config.serverAddress.toList =
        some { address, scope := 0, port := 8080 } ∧
      (launch environment none .unrestricted { nowMs := 0 }).2 ≠
        .error .misconfigured := by
  intro address config environment
  have hosted : config.host = String.ofList address.print := by decide +kernel
  have loaded : Config.ofEnvironment environment none = .ok config := by
    decide +kernel
  obtain ⟨read, -, starts⟩ := printed_host_starts_iff_v4 hosted
  refine ⟨hosted, loaded, read.2 ⟨_, rfl⟩, ?_⟩
  rw [Ne, (starts environment none loaded _ _).1]
  exact nofun

/-- The IPv6 address of all zeros is a host that a program stops for. -/
theorem Startup.unspecified_ipv6_host_stops :
    let address : Address := .v6 0
    let config : Config := { Config.standard with host := "::", port := 0 }
    let environment : Environment :=
      { entries := [("HOST", Utf8.encode "::"), ("PORT", Utf8.encode "0")] }
    config.host = String.ofList address.print ∧
      Config.ofEnvironment environment none = .ok config ∧
      Endpoint.read? config.serverAddress.toList ≠
        some { address, scope := 0, port := config.port } ∧
      (launch environment none .unrestricted { nowMs := 0 }).2 =
        .error .misconfigured := by
  intro address config environment
  have loaded : Config.ofEnvironment environment none = .ok config := by
    decide +kernel
  have unread : Endpoint.read? config.serverAddress.toList = none := by
    decide +kernel
  refine ⟨by decide +kernel, loaded, by rw [unread]; nofun, ?_⟩
  rw [launch_of_read loaded]
  exact (bringUp_misconfigured_iff (config.validate_of_ofEnvironment loaded) _ _).2 unread

end Turnstile
