import VeltiumCharger.Library.Buffer
import VeltiumCharger.Library.Lines
import VeltiumCharger.Library.Loop

/-!
# The lines of a firmware file

`CyBtldr_ReadLine` reads a line with the stream's `readStringUntil` and copies
it with `String::toCharArray`, whose last argument counts the terminator.  The
count it is given is the length of the line, and one less is the size returned:
right for a line that ends in a carriage return, and for no other.
-/

namespace VeltiumCharger.Cybtldr

open VeltiumCharger.Loop VeltiumCharger.Buffer VeltiumCharger.Lines

/-! ## The reader -/

/-- The codes of `cybtldr_utils.h` that reading a file returns. -/
inductive Cyret where
  | success
  | errFile
  | errEof
  | errLength
  | errData
  | errCmd
  deriving DecidableEq, Repr

def saltoLinea : UInt8 := 10
def retorno : UInt8 := 13
def almohadilla : UInt8 := 35

/-- `dataFile` by what is left of it, and the buffer of the caller. -/
structure Lector where
  resto : List UInt8
  buffer : Nat → UInt8

/-- `strncpy` of `n` characters: behind a terminator there are only terminators. -/
def strncpy (s : List UInt8) (n : Nat) : List UInt8 :=
  let texto := (s.take n).takeWhile (· != 0)
  texto ++ List.replicate (n - texto.length) 0

/-- `String::toCharArray`. -/
def toCharArray (s : List UInt8) (bufsize : Nat) (buffer : Nat → UInt8) : Nat → UInt8 :=
  if bufsize = 0 then buffer
  else if s.length = 0 then write 0 [0] buffer
  else
    let n := min (bufsize - 1) s.length
    write 0 (strncpy s n ++ [0]) buffer

/-- The variables of `CyBtldr_ReadLine` at the end of a pass of its loop. -/
structure Pasada where
  err : Cyret
  len : UInt32
  lector : Lector

/-- A pass of the loop. -/
def pasada (s : Lector) : Pasada :=
  match s.resto with
  | [] => ⟨.errEof, 0, s⟩
  | _ :: _ =>
      let leido := readUntil saltoLinea s.resto
      let len := UInt32.ofNat leido.1.length
      ⟨.success, len, ⟨leido.2, toCharArray leido.1 len.toNat s.buffer⟩⟩

/-- The condition of the loop. -/
def Pasada.sigue (p : Pasada) : Bool :=
  decide (p.err = .success ∧ p.lector.buffer 0 = almohadilla)

/-- `CyBtldr_ReadLine`. -/
def readLine (s : Lector) : Pasada :=
  whileFuel Pasada.sigue (fun p => pasada p.lector) s.resto.length (pasada s)

/-- `*size`. -/
def Pasada.size (p : Pasada) : UInt32 :=
  p.len - 1

/-- The reader after a number of calls. -/
def trasLlamadas (n : Nat) (s : Lector) : Lector :=
  (fun s => (readLine s).lector)^[n] s

/-! ## The lines of a file -/

/-- The text of a line: it is closed by a line feed, with or without a carriage
return before it. -/
def texto (l : Line UInt8) : List UInt8 :=
  if l.closed ∧ l.content.getLast? = some retorno then l.content.dropLast else l.content

def esComentario (l : Line UInt8) : Bool :=
  (texto l).head? = some almohadilla

/-- The lines that are to be returned. -/
def esperadas (fichero : List UInt8) : List (Line UInt8) :=
  (lines saltoLinea fichero).filter fun l => !esComentario l

/-- The call has returned this line: its text is in the buffer, terminated, the
size is its length, and the file goes on behind it. -/
structure Pasada.Lee (p : Pasada) (l : Line UInt8) : Prop where
  err : p.err = .success
  size : p.size.toNat = (texto l).length
  buffer : Begins p.lector.buffer (texto l ++ [0])
  resto : p.lector.resto = l.rest

/-- The call has returned the line that there is, or else the end of the file. -/
def Pasada.Responde (p : Pasada) : Option (Line UInt8) → Prop
  | some l => p.Lee l
  | none => p.err = .errEof

/-- Successive calls return the lines one after the other, and then the end of
the file. -/
def LeeFichero (s : Lector) : Prop :=
  ∀ n, (readLine (trasLlamadas n s)).Responde (esperadas s.resto)[n]?

/-! ## One call -/

@[simp]
theorem pasada_nil (buffer : Nat → UInt8) :
    pasada ⟨[], buffer⟩ = ⟨.errEof, 0, ⟨[], buffer⟩⟩ :=
  rfl

theorem pasada_of_ne_nil {s : Lector} (queda : s.resto ≠ []) :
    pasada s = ⟨.success, UInt32.ofNat (readUntil saltoLinea s.resto).1.length,
      ⟨(readUntil saltoLinea s.resto).2,
        toCharArray (readUntil saltoLinea s.resto).1
          (UInt32.ofNat (readUntil saltoLinea s.resto).1.length).toNat s.buffer⟩⟩ := by
  rw [pasada]
  split
  · contradiction
  · rfl

/-- What bounds the passes: what is left of the file, while there is no error. -/
def Pasada.medida (p : Pasada) : Nat :=
  if p.err = .success then p.lector.resto.length + 1 else 0

theorem medida_pasada_le (s : Lector) : (pasada s).medida ≤ s.resto.length := by
  by_cases queda : s.resto = []
  · obtain ⟨resto, buffer⟩ := s
    subst queda
    exact le_rfl
  · rw [pasada_of_ne_nil queda]
    exact length_readUntil_lt queda

theorem length_resto_pasada_lt {s : Lector} (leida : (pasada s).err = .success) :
    (pasada s).lector.resto.length < s.resto.length := by
  have cota := medida_pasada_le s
  rw [Pasada.medida, if_pos leida] at cota
  exact cota

/-- A comment is skipped, anything else returned. -/
theorem readLine_eq (s : Lector) :
    readLine s = if (pasada s).sigue then readLine (pasada s).lector else pasada s := by
  have decrece : ∀ p : Pasada, p.sigue = true → (pasada p.lector).medida < p.medida := by
    intro p sigue
    have success : p.err = .success := (of_decide_eq_true sigue).1
    rw [Pasada.medida.eq_def p, if_pos success]
    exact Nat.lt_succ_of_le (medida_pasada_le p.lector)
  split_ifs with sigue
  · have menor := decrece (pasada s) sigue
    have cota := medida_pasada_le s
    obtain ⟨fuel, hfuel⟩ : ∃ fuel, s.resto.length = fuel + 1 := ⟨s.resto.length - 1, by omega⟩
    rw [readLine, hfuel, whileFuel, if_pos sigue, readLine]
    exact whileFuel_enough Pasada.medida decrece (by omega) (medida_pasada_le _)
  · exact whileFuel_of_not _ _ (Bool.not_eq_true _ ▸ sigue)

/-! ## What is copied -/

theorem length_strncpy {s : List UInt8} {n : Nat} (bastan : n ≤ s.length) :
    (strncpy s n).length = n := by
  have corto := (List.takeWhile_prefix (l := s.take n) (· != 0)).length_le
  rw [List.length_take, Nat.min_eq_left bastan] at corto
  rw [strncpy, List.length_append, List.length_replicate]
  omega

theorem head?_strncpy {c : UInt8} {s : List UInt8} {n : Nat} :
    (strncpy (c :: s) (n + 1)).head? = some c := by
  by_cases nulo : c = 0
  · subst nulo
    simp [strncpy, List.replicate_succ]
  · simp [strncpy, nulo]

/-- All but the last character, and the terminator. -/
theorem begins_toCharArray {s : List UInt8} (queda : s ≠ []) (buffer : Nat → UInt8) :
    Begins (toCharArray s s.length buffer) (strncpy s (s.length - 1) ++ [0]) := by
  have positivo := List.length_pos_iff.mpr queda
  rw [toCharArray, if_neg (by omega), if_neg (by omega), Nat.min_eq_left (by omega)]
  exact begins_write_zero _ _

/-- The buffer begins like a comment when the line does and something of it is
copied. -/
theorem toCharArray_zero_iff {s : List UInt8} (queda : s ≠ []) (buffer : Nat → UInt8) :
    toCharArray s s.length buffer 0 = almohadilla ↔
      2 ≤ s.length ∧ s.head? = some almohadilla := by
  have primera := begins_toCharArray queda buffer 0 (by simp)
  match s with
  | [c] =>
      have nulo : toCharArray [c] [c].length buffer 0 = 0 := (Option.some.inj primera).symm
      rw [nulo]
      exact iff_of_false (by decide) fun largo => absurd largo.1 (by simp)
  | c :: d :: s =>
      have cabeza : (strncpy (c :: d :: s) (s.length + 1) ++ [0])[0]? = some c := by
        rw [← List.head?_eq_getElem?, List.head?_append, head?_strncpy, Option.some_or]
      have igual : toCharArray (c :: d :: s) (c :: d :: s).length buffer 0 = c :=
        Option.some.inj (primera.symm.trans cabeza)
      rw [igual]
      simp

/-! ## Lines that are read as they should -/

/-- `char line[MAX_BUFFER_SIZE * 2]`. -/
def tamanoLinea : Nat := 1536

/-- Every line is shorter than the buffer. -/
def Cabe (fichero : List UInt8) : Prop :=
  ∀ l ∈ lines saltoLinea fichero, l.content.length < tamanoLinea

instance (fichero : List UInt8) : Decidable (Cabe fichero) :=
  List.decidableBAll _ _

/-- Either a comment of which something is copied, or a text closed by a carriage
return and a line feed, without a terminator in front of other characters. -/
def Legible (l : Line UInt8) : Prop :=
  (2 ≤ l.content.length ∧ l.content.head? = some almohadilla) ∨
    (l.closed = true ∧ l.content.getLast? = some retorno ∧
      strncpy (texto l) (texto l).length = texto l)

instance : DecidablePred Legible :=
  fun _ => inferInstanceAs (Decidable (_ ∨ _))

/-- The first line decides what a pass does. -/
theorem pasada_eq {s : Lector} {l : Line UInt8} {resto : List (Line UInt8)}
    (lineas : lines saltoLinea s.resto = l :: resto) (corta : l.content.length < tamanoLinea) :
    resto = lines saltoLinea l.rest ∧
      (UInt32.ofNat l.content.length).toNat = l.content.length ∧
      pasada s = ⟨.success, UInt32.ofNat l.content.length,
        ⟨l.rest, toCharArray l.content l.content.length s.buffer⟩⟩ := by
  have queda : s.resto ≠ [] := by
    intro vacio
    rw [vacio, lines_nil] at lineas
    exact List.cons_ne_nil l resto lineas.symm
  have tamano : tamanoLinea = 1536 := rfl
  have exacto : (UInt32.ofNat l.content.length).toNat = l.content.length :=
    UInt32.toNat_ofNat_of_lt' (lt_trans corta (by decide))
  have primera := (lines_of_ne_nil queda).symm.trans lineas
  rw [List.cons.injEq] at primera
  obtain ⟨rfl, siguen⟩ := primera
  dsimp only at exacto ⊢
  exact ⟨siguen.symm, exacto, by rw [pasada_of_ne_nil queda, exacto]⟩

theorem texto_of_retorno {l : Line UInt8} (cerrada : l.closed = true)
    (acaba : l.content.getLast? = some retorno) :
    texto l = l.content.dropLast ∧ (texto l).length = l.content.length - 1 := by
  have igual : texto l = l.content.dropLast := if_pos ⟨cerrada, acaba⟩
  exact ⟨igual, by rw [igual, List.length_dropLast]⟩

/-- Without the carriage return, the text is the line. -/
theorem texto_of_not {l : Line UInt8}
    (sin : ¬(l.closed = true ∧ l.content.getLast? = some retorno)) : texto l = l.content :=
  if_neg sin

/-- What is copied of a line with a carriage return. -/
theorem strncpy_texto {l : Line UInt8} (cerrada : l.closed = true)
    (acaba : l.content.getLast? = some retorno) :
    strncpy l.content (l.content.length - 1) = strncpy (texto l) (texto l).length := by
  obtain ⟨igual, largo⟩ := texto_of_retorno cerrada acaba
  rw [strncpy, strncpy, List.take_length, largo, igual, List.dropLast_eq_take]

theorem esComentario_of_almohadilla {l : Line UInt8}
    (comentario : 2 ≤ l.content.length ∧ l.content.head? = some almohadilla) :
    esComentario l = true := by
  have cabeza : (texto l).head? = l.content.head? := by
    unfold texto
    split_ifs
    · obtain ⟨content, closed, rest⟩ := l
      match content with
      | [_] => exact absurd comentario.1 (by simp)
      | c :: d :: content => rfl
    · rfl
  rw [esComentario, cabeza, comentario.2]
  exact decide_eq_true rfl

/-- A comment that is not skipped consists of its mark. -/
theorem head?_content_of_esComentario {l : Line UInt8} (comentario : esComentario l = true) :
    l.content.head? = some almohadilla := by
  have cabeza : (texto l).head? = some almohadilla := of_decide_eq_true comentario
  rw [texto] at cabeza
  split_ifs at cabeza
  · obtain ⟨content, closed, rest⟩ := l
    match content with
    | [_] => exact absurd cabeza (by simp)
    | c :: d :: content => exact cabeza
  · exact cabeza

section Linea

variable {s : Lector} {l : Line UInt8} {resto : List (Line UInt8)}
  (lineas : lines saltoLinea s.resto = l :: resto) (corta : l.content.length < tamanoLinea)

include lineas corta

/-- Whether the pass skips the line. -/
theorem sigue_pasada_iff :
    (pasada s).sigue = true ↔
      (2 ≤ l.content.length ∧ l.content.head? = some almohadilla) ∨
        (l.content = [] ∧ s.buffer 0 = almohadilla) := by
  obtain ⟨_, _, igual⟩ := pasada_eq lineas corta
  rw [Pasada.sigue, decide_eq_true_eq, igual]
  dsimp only
  rw [and_iff_right rfl]
  by_cases vacia : l.content = []
  · rw [vacia, List.length_nil, toCharArray, if_pos rfl]
    simp
  · rw [toCharArray_zero_iff vacia]
    simp [vacia]

theorem toNat_size_pasada (vacia : l.content ≠ []) :
    (pasada s).size.toNat = l.content.length - 1 := by
  obtain ⟨_, exacto, igual⟩ := pasada_eq lineas corta
  have positivo := List.length_pos_iff.mpr vacia
  have uno : (1 : UInt32).toNat = 1 := rfl
  have cabe : (1 : UInt32) ≤ UInt32.ofNat l.content.length := by
    rw [UInt32.le_iff_toNat_le, exacto]
    exact positivo
  rw [Pasada.size, igual, UInt32.toNat_sub_of_le _ _ cabe, exacto, uno]

/-- The length of an empty line is not one more than a size. -/
theorem toNat_size_pasada_nil (vacia : l.content = []) :
    (pasada s).size.toNat = 4294967295 := by
  obtain ⟨_, _, igual⟩ := pasada_eq lineas corta
  rw [Pasada.size, igual, vacia]
  rfl

theorem begins_pasada (vacia : l.content ≠ []) :
    Begins (pasada s).lector.buffer (strncpy l.content (l.content.length - 1) ++ [0]) := by
  obtain ⟨_, _, igual⟩ := pasada_eq lineas corta
  rw [igual]
  exact begins_toCharArray vacia s.buffer

/-- A line with a carriage return is read as it should be. -/
theorem lee_pasada (cerrada : l.closed = true) (acaba : l.content.getLast? = some retorno)
    (limpia : strncpy (texto l) (texto l).length = texto l) : (pasada s).Lee l := by
  obtain ⟨_, _, igual⟩ := pasada_eq lineas corta
  have vacia : l.content ≠ [] := by
    intro vacia
    simp [vacia] at acaba
  constructor
  · rw [igual]
  · rw [toNat_size_pasada lineas corta vacia, (texto_of_retorno cerrada acaba).2]
  · rw [← limpia, ← strncpy_texto cerrada acaba]
    exact begins_pasada lineas corta vacia
  · rw [igual]

/-- And no other line. -/
theorem legible_of_lee (lee : (pasada s).Lee l) : Legible l := by
  have vacia : l.content ≠ [] := by
    intro vacia
    have tamano := lee.size
    have sin : texto l = l.content := texto_of_not (by simp [vacia])
    rw [toNat_size_pasada_nil lineas corta vacia, sin, vacia] at tamano
    exact absurd tamano (by decide)
  have tamano := lee.size
  rw [toNat_size_pasada lineas corta vacia] at tamano
  have positivo := List.length_pos_iff.mpr vacia
  have con : l.closed = true ∧ l.content.getLast? = some retorno := by
    by_contra sin
    rw [texto_of_not sin] at tamano
    omega
  refine Or.inr ⟨con.1, con.2, ?_⟩
  have copiado := (begins_pasada lineas corta vacia).eq_map
  have esperado := lee.buffer.eq_map
  rw [strncpy_texto con.1 con.2] at copiado
  rw [← List.append_left_inj [0], ← copiado, ← esperado]
  simp only [List.length_append, length_strncpy le_rfl]

end Linea

/-! ## Successive calls -/

/-- A call that returns a line has read it. -/
theorem length_resto_readLine_lt {s : Lector} (leida : (readLine s).err = .success) :
    (readLine s).lector.resto.length < s.resto.length := by
  rw [readLine_eq] at leida ⊢
  split_ifs at leida ⊢ with sigue
  · have menor := length_resto_pasada_lt (of_decide_eq_true sigue).1
    exact (length_resto_readLine_lt leida).trans menor
  · exact length_resto_pasada_lt leida
termination_by s.resto.length

theorem trasLlamadas_succ (n : Nat) (s : Lector) :
    trasLlamadas (n + 1) s = trasLlamadas n (readLine s).lector :=
  Function.iterate_succ_apply _ n s

theorem leeFichero_nil (buffer : Nat → UInt8) : LeeFichero ⟨[], buffer⟩ := by
  have fin : readLine ⟨[], buffer⟩ = ⟨.errEof, 0, ⟨[], buffer⟩⟩ := rfl
  have quieto : ∀ n, trasLlamadas n ⟨[], buffer⟩ = ⟨[], buffer⟩ := by
    intro n
    induction n with
    | zero => rfl
    | succ n inductionHypothesis => rw [trasLlamadas_succ, fin, inductionHypothesis]
  intro n
  rw [quieto n, fin]
  rfl

/-- Calls from here are calls from behind a line that is skipped. -/
theorem readLine_trasLlamadas_of_sigue {s : Lector} (sigue : (pasada s).sigue = true) (n : Nat) :
    readLine (trasLlamadas n s) = readLine (trasLlamadas n (pasada s).lector) := by
  have primera : readLine s = readLine (pasada s).lector := by rw [readLine_eq, if_pos sigue]
  cases n with
  | zero => exact primera
  | succ n => rw [trasLlamadas_succ, trasLlamadas_succ, primera]

section Llamadas

variable {s : Lector} {l : Line UInt8} {resto : List (Line UInt8)}
  (lineas : lines saltoLinea s.resto = l :: resto) (corta : l.content.length < tamanoLinea)

include lineas corta

theorem resto_pasada : (pasada s).lector.resto = l.rest := by
  obtain ⟨_, _, igual⟩ := pasada_eq lineas corta
  rw [igual]

theorem esperadas_eq : esperadas s.resto =
    if esComentario l then esperadas (pasada s).lector.resto
    else l :: esperadas (pasada s).lector.resto := by
  obtain ⟨siguen, _, _⟩ := pasada_eq lineas corta
  rw [resto_pasada lineas corta, esperadas, lineas, List.filter_cons, siguen]
  cases esComentario l <;> rfl

theorem leeFichero_of_comentario (sigue : (pasada s).sigue = true)
    (comentario : esComentario l = true) : LeeFichero s ↔ LeeFichero (pasada s).lector := by
  have igual := esperadas_eq lineas corta
  rw [if_pos comentario] at igual
  unfold LeeFichero
  simp only [igual, readLine_trasLlamadas_of_sigue sigue]

theorem leeFichero_of_texto (sigue : (pasada s).sigue = false)
    (comentario : esComentario l = false) :
    LeeFichero s ↔ (pasada s).Lee l ∧ LeeFichero (pasada s).lector := by
  have igual := esperadas_eq lineas corta
  rw [if_neg (by simp [comentario])] at igual
  have primera : readLine s = pasada s := by rw [readLine_eq, if_neg (by simp [sigue])]
  unfold LeeFichero
  constructor
  · intro lee
    refine ⟨?_, fun n => ?_⟩
    · have uno := lee 0
      rw [igual] at uno
      exact primera ▸ uno
    · have sucesiva := lee (n + 1)
      rwa [igual, List.getElem?_cons_succ, trasLlamadas_succ, primera] at sucesiva
  · rintro ⟨uno, lee⟩ n
    cases n with
    | zero =>
        rw [igual]
        exact primera.symm ▸ uno
    | succ n =>
        rw [igual, List.getElem?_cons_succ, trasLlamadas_succ, primera]
        exact lee n

/-- An empty line skipped because of what the buffer held is missing. -/
theorem not_leeFichero_of_sigue (sigue : (pasada s).sigue = true)
    (comentario : esComentario l = false) : ¬LeeFichero s := by
  intro lee
  have uno := lee 0
  have igual := esperadas_eq lineas corta
  rw [if_neg (by simp [comentario])] at igual
  rw [igual, readLine_trasLlamadas_of_sigue sigue 0] at uno
  change (readLine (pasada s).lector).Lee l at uno
  have menor := length_resto_readLine_lt uno.err
  rw [uno.resto, resto_pasada lineas corta] at menor
  exact Nat.lt_irrefl _ menor

/-- A comment that is returned is too much. -/
theorem not_leeFichero_of_comentario (sigue : (pasada s).sigue = false)
    (comentario : esComentario l = true) : ¬LeeFichero s := by
  intro lee
  have uno := lee 0
  obtain ⟨_, _, leida⟩ := pasada_eq lineas corta
  have igual := esperadas_eq lineas corta
  rw [if_pos comentario] at igual
  have primera : readLine s = pasada s := by rw [readLine_eq, if_neg (by simp [sigue])]
  change (readLine s).Responde (esperadas s.resto)[0]? at uno
  rw [igual, primera] at uno
  cases primero : (esperadas (pasada s).lector.resto)[0]? with
  | some l' =>
      rw [primero] at uno
      have miembro : l' ∈ lines saltoLinea (pasada s).lector.resto :=
        List.mem_of_mem_filter (List.mem_of_getElem? primero)
      have menor := length_rest_lt miembro
      rw [uno.resto] at menor
      exact Nat.lt_irrefl _ menor
  | none =>
      have distinto : Cyret.success ≠ .errEof := by decide
      rw [primero, leida] at uno
      exact distinto uno

end Llamadas

/-- A comment that is read as it should be has something copied. -/
theorem Legible.almohadilla_of_esComentario {l : Line UInt8} (legible : Legible l)
    (comentario : esComentario l = true) :
    2 ≤ l.content.length ∧ l.content.head? = some almohadilla := by
  refine ⟨?_, head?_content_of_esComentario comentario⟩
  rcases legible with copiado | ⟨cerrada, acaba, _⟩
  · exact copiado.1
  · have cabeza : (texto l).head? = some almohadilla := of_decide_eq_true comentario
    have largo := (texto_of_retorno cerrada acaba).2
    have positivo : 0 < (texto l).length := by
      apply List.length_pos_iff.mpr
      intro vacio
      simp [vacio] at cabeza
    omega

/-- The first line is read as it should be, and then what follows it. -/
theorem leeFichero_iff_legible {s : Lector} {l : Line UInt8} {resto : List (Line UInt8)}
    (lineas : lines saltoLinea s.resto = l :: resto) (corta : l.content.length < tamanoLinea) :
    LeeFichero s ↔ Legible l ∧ LeeFichero (pasada s).lector := by
  have sigue_iff := sigue_pasada_iff lineas corta
  cases sigue : (pasada s).sigue <;> cases comentario : esComentario l
  · -- the text is returned
    rw [leeFichero_of_texto lineas corta sigue comentario]
    refine and_congr_left fun _ => ⟨legible_of_lee lineas corta, fun legible => ?_⟩
    rcases legible with copiado | ⟨cerrada, acaba, limpia⟩
    · exact absurd (sigue_iff.mpr (Or.inl copiado)) (by simp [sigue])
    · exact lee_pasada lineas corta cerrada acaba limpia
  · -- a comment is returned
    refine iff_of_false (not_leeFichero_of_comentario lineas corta sigue comentario) ?_
    rintro ⟨legible, _⟩
    have copiado := legible.almohadilla_of_esComentario comentario
    exact absurd (sigue_iff.mpr (Or.inl copiado)) (by simp [sigue])
  · -- a line without text is skipped
    refine iff_of_false (not_leeFichero_of_sigue lineas corta sigue comentario) ?_
    rintro ⟨legible, _⟩
    rcases sigue_iff.mp sigue with copiado | ⟨vacia, _⟩
    · exact absurd (esComentario_of_almohadilla copiado) (by simp [comentario])
    · rcases legible with copiado | ⟨_, acaba, _⟩
      · exact absurd copiado.1 (by simp [vacia])
      · exact absurd acaba (by simp [vacia])
  · -- a comment is skipped
    rw [leeFichero_of_comentario lineas corta sigue comentario]
    rcases sigue_iff.mp sigue with copiado | ⟨vacia, _⟩
    · exact (and_iff_right (Or.inl copiado)).symm
    · exact absurd (head?_content_of_esComentario comentario) (by simp [vacia])

/-- The file is read as it should be when its lines are, one by one. -/
theorem leeFichero_iff {s : Lector} (cabe : Cabe s.resto) :
    LeeFichero s ↔ ∀ l ∈ lines saltoLinea s.resto, Legible l := by
  cases lineas : lines saltoLinea s.resto with
  | nil =>
      have vacio : s.resto = [] := by
        by_contra queda
        rw [lines_of_ne_nil queda] at lineas
        exact List.cons_ne_nil _ _ lineas
      obtain ⟨resto, buffer⟩ := s
      subst vacio
      exact iff_of_true (leeFichero_nil buffer) (fun l miembro => by simp at miembro)
  | cons l resto =>
      have corta : l.content.length < tamanoLinea := cabe l (lineas ▸ List.mem_cons_self)
      obtain ⟨siguen, _, _⟩ := pasada_eq lineas corta
      have queda := resto_pasada lineas corta
      have menor : (pasada s).lector.resto.length < s.resto.length := by
        rw [queda]
        exact length_rest_lt (lineas ▸ List.mem_cons_self)
      have cabe' : Cabe (pasada s).lector.resto := by
        intro l' miembro
        rw [queda, ← siguen] at miembro
        exact cabe l' (lineas ▸ List.mem_cons_of_mem l miembro)
      have detras := leeFichero_iff cabe'
      rw [queda, ← siguen] at detras
      rw [List.forall_mem_cons, leeFichero_iff_legible lineas corta, detras]
termination_by s.resto.length

/-- What a call has returned is a line of the file. -/
theorem LeeFichero.exists_lee {s : Lector} (lee : LeeFichero s)
    (leida : (readLine s).err = .success) :
    ∃ l ∈ lines saltoLinea s.resto, (readLine s).Lee l := by
  have primera := lee 0
  change (readLine s).Responde (esperadas s.resto)[0]? at primera
  cases encontrada : (esperadas s.resto)[0]? with
  | some l =>
      rw [encontrada] at primera
      exact ⟨l, List.mem_of_mem_filter (List.mem_of_getElem? encontrada), primera⟩
  | none =>
      have distinto : Cyret.success ≠ .errEof := by decide
      rw [encontrada] at primera
      exact absurd (leida.symm.trans primera) distinto

end VeltiumCharger.Cybtldr
