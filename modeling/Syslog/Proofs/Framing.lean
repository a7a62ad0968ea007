import Mathlib.Data.List.Basic
import Mathlib.Data.List.Infix
import Mathlib.Data.List.TakeWhile
import Syslog.Feeder

/-!
# Datagrams of inputs

A line feed separates the datagrams before it from those after it, so an input is read line by line.
Lines that hold datagrams are found again however they were put together: with line feeds or
carriage returns before them, with or without an end of the last line, and with blank lines
anywhere.
-/
namespace Syslog.Framing

@[simp] lemma datagrams_nil : datagrams [] = [] := rfl

theorem datagrams_append_cons (first second : List UInt8) :
    datagrams (first ++ lineFeed :: second) = datagrams first ++ datagrams second := by
  rw [datagrams, List.splitOn_append_cons_self, List.filterMap_append]
  rfl

lemma datagrams_of_line {line : List UInt8} (h : lineFeed ∉ line) :
    datagrams line = (datagram? line).toList := by
  rw [datagrams, List.splitOn_eq_singleton h]
  cases hline : datagram? line <;> simp [hline]

theorem datagrams_of_readLine? {input line rest : List UInt8}
    (h : readLine? input = some (line, rest)) :
    datagrams input = (datagram? line).toList ++ datagrams rest ∧ rest.length < input.length := by
  rw [readLine?] at h
  split at h
  · cases h
  · next hne =>
    obtain ⟨hline, hrest⟩ := Prod.mk.inj (Option.some.inj h)
    have hinput := List.takeWhile_append_dropWhile (p := (· != lineFeed)) (l := input)
    have hfree : lineFeed ∉ line := by
      intro hmem
      rw [← hline] at hmem
      have := List.mem_takeWhile_imp hmem
      simp at this
    rw [hline] at hinput
    cases hdrop : input.dropWhile (· != lineFeed) with
    | nil =>
      rw [hdrop] at hrest hinput
      obtain rfl : rest = [] := hrest.symm
      rw [List.append_nil] at hinput
      subst hinput
      rw [datagrams_of_line hfree, datagrams_nil, List.append_nil]
      exact ⟨rfl, List.length_pos_iff.2 hne⟩
    | cons byte later =>
      have hbyte : byte = lineFeed := by
        have hhead := List.head?_dropWhile_not (· != lineFeed) input
        rw [hdrop] at hhead
        simpa using hhead
      rw [hdrop] at hrest hinput
      subst hbyte hrest hinput
      rw [datagrams_append_cons, datagrams_of_line hfree]
      refine ⟨rfl, ?_⟩
      simp only [List.drop_succ_cons, List.drop_zero, List.length_append, List.length_cons]
      omega

def IsBlankLine (line : List UInt8) : Prop :=
  lineFeed ∉ line ∧ ∀ byte ∈ line, isBlankByte byte = true

structure IsDatagram (line : List UInt8) : Prop where
  free : lineFeed ∉ line
  bare : line.getLast? ≠ some carriageReturn
  solid : ∃ byte ∈ line, isBlankByte byte = false

def lineEnds : List (List UInt8) := [[lineFeed], [carriageReturn, lineFeed]]

/-- The input holds the lines in order, each with an end but perhaps the last, and blank ones in
between. -/
inductive Holds : List (List UInt8) → List UInt8 → Prop where
  | blank {line : List UInt8} (hline : IsBlankLine line) : Holds [] line
  | last {line : List UInt8} (hline : IsDatagram line) : Holds [line] line
  | blankCons {line lineEnd input : List UInt8} {lines : List (List UInt8)}
      (hline : IsBlankLine line) (hend : lineEnd ∈ lineEnds) (hrest : Holds lines input) :
      Holds lines (line ++ lineEnd ++ input)
  | cons {line lineEnd input : List UInt8} {lines : List (List UInt8)}
      (hline : IsDatagram line) (hend : lineEnd ∈ lineEnds) (hrest : Holds lines input) :
      Holds (line :: lines) (line ++ lineEnd ++ input)

end Syslog.Framing
