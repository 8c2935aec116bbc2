import Turnstile.Net.Endpoint
import Turnstile.Proofs.Net.AddressText

/-!
# Printed endpoints

The printed text of an endpoint reads back as that endpoint.  The brackets around an
IPv6 address are needed for it: with the colons of the address and the one before the
port a text without brackets is no endpoint of either family.
-/

namespace Turnstile
namespace Net
namespace Endpoint

open Text

theorem readBelow?_decimal {bound number : Nat} (below : number < bound) :
    readBelow? bound (decimal number) = some number := by
  rw [readBelow?, readNumeral?_decimal, Option.filter_some,
    if_pos (decide_eq_true below)]

theorem not_mem_decimal
    {char : Char}
    (other : digit? 10 char = none)
    (number : Nat) : char ∉ decimal number := by
  intro member
  have digit := isSome_digit?_of_mem_decimal member
  rw [other] at digit
  cases digit

/-! ## IPv4 -/

theorem colon_not_mem_printV4 (bits : BitVec 32) : ':' ∉ Address.printV4 bits := by
  intro member
  exact absurd (Address.digit_of_readV4? (Address.readV4?_printV4 bits) ':' member)
    (by decide)

/-- A printed IPv4 address with a port after a colon reads back. -/
theorem readV4?_printV4 (bits : BitVec 32) (port : UInt16) :
    readV4? (Address.printV4 bits ++ ':' :: decimal port.toNat) =
      some { address := .v4 bits, scope := 0, port } := by
  have cut : split ':' (Address.printV4 bits ++ ':' :: decimal port.toNat) =
      [Address.printV4 bits, decimal port.toNat] := by
    rw [split_append_cons (colon_not_mem_printV4 bits),
      split_of_not_mem (not_mem_decimal rfl _)]
  rw [readV4?, cut]
  simp [Address.readV4?_printV4, readBelow?_decimal port.toNat_lt]

/-- A text with more than one colon is no IPv4 endpoint. -/
theorem readV4?_eq_none_of_count {text : List Char} (many : 2 ≤ text.count ':') :
    readV4? text = none := by
  rw [readV4?]
  split
  · next cut =>
      have pieces := length_split ':' text
      rw [cut] at pieces
      simp only [List.length_cons, List.length_nil] at pieces
      omega
  · rfl

/-! ## IPv6 -/

theorem colon_mem_printV6 (bits : BitVec 128) : ':' ∈ Address.printV6 bits :=
  Address.colon_mem_of_readV6? (Address.readV6?_printV6 bits)

theorem isPart_of_mem_printV6
    {bits : BitVec 128}
    {char : Char}
    (member : char ∈ Address.printV6 bits) : Address.isPart char = true :=
  Address.isPart_of_read? (Address.read?_print (.v6 bits)) char member

/-- The colons of an IPv6 address and the one before a port are too many. -/
theorem readV4?_eq_none_of_printV6
    (front : List Char)
    (bits : BitVec 128)
    (middle rest : List Char) :
    readV4? (front ++ Address.printV6 bits ++ middle ++ ':' :: rest) = none := by
  -- one colon stands before the port and another one inside of the address
  apply readV4?_eq_none_of_count
  have inside : 0 < (Address.printV6 bits).count ':' :=
    List.count_pos_iff.2 (colon_mem_printV6 bits)
  simp only [List.count_append, List.count_cons_self]
  omega

/-- Without brackets an IPv6 address with a port is no endpoint. -/
theorem read?_printV6_eq_none (bits : BitVec 128) (rest : List Char) :
    read? (Address.printV6 bits ++ ':' :: rest) = none := by
  have none := readV4?_eq_none_of_printV6 [] bits [] rest
  rw [List.nil_append, List.append_nil] at none
  rw [read?, none]
  dsimp only
  obtain ⟨char, more, start⟩ :=
    List.exists_cons_of_ne_nil (List.ne_nil_of_mem (colon_mem_printV6 bits))
  have bracketless : char ≠ '[' := by
    rintro rfl
    have part := isPart_of_mem_printV6 (start ▸ List.mem_cons_self)
    exact absurd part (by decide)
  rw [start, List.cons_append, readV6?]
  intro text same
  injection same with bracket
  exact bracketless bracket

/-- What is printed after an IPv6 address for its scope. -/
def scopeText (scope : UInt32) : List Char :=
  if scope = 0 then [] else '%' :: decimal scope.toNat

/-- An IPv6 address is printed in brackets, together with its scope. -/
theorem print_v6 (bits : BitVec 128) (scope : UInt32) (port : UInt16) :
    print { address := .v6 bits, scope, port } =
      '[' :: (Address.printV6 bits ++ scopeText scope ++
        ']' :: ':' :: decimal port.toNat) :=
  rfl

theorem bracket_not_mem_scopeText (scope : UInt32) : ']' ∉ scopeText scope := by
  rw [scopeText]
  split
  · exact List.not_mem_nil
  · exact List.not_mem_cons_of_ne_of_not_mem (by decide) (not_mem_decimal rfl _)

/-- What stands in the brackets of a printed endpoint reads back. -/
theorem readScoped?_printV6 (bits : BitVec 128) (scope : UInt32) :
    readScoped? (Address.printV6 bits ++ scopeText scope) = some (bits, scope) := by
  have plain : '%' ∉ Address.printV6 bits := by
    intro member
    exact absurd (isPart_of_mem_printV6 member) (by decide)
  rw [scopeText]
  split
  · next zero =>
      rw [List.append_nil, readScoped?, split_of_not_mem plain, zero]
      simp [Address.readV6?_printV6]
  · rw [readScoped?, split_append_cons plain, split_of_not_mem (not_mem_decimal rfl _)]
    simp [Address.readV6?_printV6, readBelow?_decimal scope.toNat_lt]

/-! ## Both families -/

/-- A printed endpoint reads back, if an IPv4 address has no scope. -/
theorem read?_print
    (endpoint : Endpoint)
    (plain : ∀ bits, endpoint.address = .v4 bits → endpoint.scope = 0) :
    read? endpoint.print = some endpoint := by
  obtain ⟨address, scope, port⟩ := endpoint
  cases address with
  | v4 bits =>
      obtain rfl : scope = 0 := plain bits rfl
      rw [read?, print]
      simp only [readV4?_printV4]
  | v6 bits =>
      have text : print { address := .v6 bits, scope, port } =
          ['['] ++ Address.printV6 bits ++ (scopeText scope ++ [']'])
            ++ ':' :: decimal port.toNat := by
        simp [print_v6]
      have cut : splitOnce ']' (Address.printV6 bits ++ scopeText scope
          ++ ']' :: ':' :: decimal port.toNat) =
            some (Address.printV6 bits ++ scopeText scope, ':' :: decimal port.toNat) := by
        refine splitOnce_append_cons ?_ _
        rw [List.mem_append, not_or]
        exact ⟨fun member => absurd (isPart_of_mem_printV6 member) (by decide),
          bracket_not_mem_scopeText scope⟩
      rw [read?, text, readV4?_eq_none_of_printV6]
      simp only [List.cons_append, List.nil_append, List.append_assoc]
      rw [readV6?, ← List.append_assoc, cut]
      simp [readScoped?_printV6, readBelow?_decimal port.toNat_lt]

end Endpoint
end Net
end Turnstile
