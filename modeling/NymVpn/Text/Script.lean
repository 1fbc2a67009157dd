import Mathlib.Data.List.Forall2
import NymVpn.Text.Words

/-!
# Scripts of statements

A script has one statement a line; blank lines and comments say nothing. A
script is read with a reader for the words of one statement.
-/

namespace Text

structure Says (text : String) (ws : List String) : Prop where
  isLine : IsLine text
  words_eq : words text = ws

theorem Says.blank {s t : String} {us vs : List String} (hs : Says s us) (ht : Says t vs) :
    Says (s ++ " " ++ t) (us ++ vs) :=
  ⟨(hs.isLine.append (by decide)).append ht.isLine,
    by rw [words_append_blank, hs.words_eq, ht.words_eq]⟩

theorem says_option {o v : String} (hopt : IsLine o ∧ o.toList.getLast? = some ' ')
    (hv : IsWord v ∧ IsLine v) : Says (o ++ v) (words o ++ [v]) :=
  ⟨hopt.1.append hv.2, by rw [words_append_of_blank hopt.2, words_of_isWord hv.1]⟩

theorem says_intercalate {parts : List String} {ws : List (List String)}
    (h : List.Forall₂ Says parts ws) : Says (String.intercalate " " parts) ws.flatten := by
  induction h with
  | nil => exact ⟨by decide, rfl⟩
  | @cons p w parts ws hp htail ih =>
    cases htail with
    | nil => simpa using hp
    | cons hq htail =>
      rw [String.intercalate_cons_cons]
      exact hp.blank ih

theorem forall₂_toList {α β γ : Type*} {R : β → γ → Prop} {o : Option α} {f : α → β} {g : α → γ}
    (h : ∀ a ∈ o, R (f a) (g a)) : List.Forall₂ R (o.map f).toList (o.map g).toList := by
  cases o with
  | none => exact .nil
  | some a => exact .cons (h a rfl) .nil

theorem forall_of_forall₂ {α β : Type*} {R : α → β → Prop} {p : β → Prop} {l : List α}
    {m : List β} (h : List.Forall₂ R l m) (hR : ∀ a b, R a b → p b) : ∀ b ∈ m, p b := by
  induction h with
  | nil => simp
  | cons hab _ ih => exact List.forall_mem_cons.2 ⟨hR _ _ hab, ih⟩

def isStatement : List String → Bool
  | [] => false
  | w :: _ => w.toList.head? != some '#'

variable {α : Type*} (reader : List String → Option α)

def readStatements (texts : List String) : Option (List α) :=
  ((texts.map words).filter isStatement).mapM reader

def readLines (s : String) : Option (List α) := readStatements reader (lines s)

structure Reads (text : String) (a : α) : Prop where
  isLine : IsLine text
  isStatement : isStatement (words text) = true
  read : reader (words text) = some a

variable {reader} {ts : List String} {as : List α}

theorem Says.reads {text : String} {ws : List String} {a : α} (h : Says text ws)
    (hstatement : Text.isStatement ws = true) (hread : reader ws = some a) : Reads reader text a :=
  ⟨h.isLine, by rw [h.words_eq, hstatement], by rw [h.words_eq, hread]⟩

theorem readStatements_append {ts us : List String} {as bs : List α}
    (hts : readStatements reader ts = some as) (hus : readStatements reader us = some bs) :
    readStatements reader (ts ++ us) = some (as ++ bs) := by
  rw [readStatements] at hts hus ⊢
  simp [List.mapM_append, hts, hus]

theorem readStatements_of_forall₂
    (h : List.Forall₂ (Reads reader) ts as) : readStatements reader ts = some as := by
  induction h with
  | nil => rfl
  | cons hl _ ih =>
    rw [readStatements] at ih ⊢
    simp [hl.isStatement, hl.read, ih]

theorem isLine_of_forall₂ (h : List.Forall₂ (Reads reader) ts as) : ∀ t ∈ ts, IsLine t :=
  forall_of_forall₂ h.flip fun _ _ hl => hl.isLine

theorem readLines_unlines (hlines : ∀ t ∈ ts, IsLine t)
    (h : readStatements reader ts = some as) : readLines reader (unlines ts) = some as := by
  have hlast : readStatements reader [""] = some [] := rfl
  rw [readLines, lines_unlines hlines, readStatements_append h hlast, List.append_nil]

end Text
