import CatalogScout.Failure

/-!
A bounded pool of clients.

Clients are made on demand and never thrown away.  Taking one never waits: an idle client is
handed out, the one that came back last first; without one a new client is made as long as
fewer than `size` are in use; otherwise taking fails.  A failed attempt to take a client leaves
the clients as they were.
-/

namespace CatalogScout

structure Pool (Client : Type) where
  size : Nat
  size_pos : 0 < size
  /-- The next one to be handed out stands first. -/
  idle : List Client
  inUse : Nat
  /-- How often a client was asked for from the factory. -/
  asked : Nat

namespace Pool

variable {Client : Type}

def ofSize (size : Int) : Except Failure (Pool Client) :=
  if h : 1 ≤ size then .ok ⟨size.toNat, by omega, [], 0, 0⟩ else .error .poolTooSmall

/-- Taking a client now would ask the factory for one. -/
def asks (p : Pool Client) : Bool := p.idle.isEmpty && p.inUse < p.size

/-- Take a client.  The factory is told how often it was asked before. -/
def take (factory : Nat → Except Failure Client) (p : Pool Client) :
    Except Failure Client × Pool Client :=
  match p.idle with
  | client :: rest => (.ok client, { p with idle := rest, inUse := p.inUse + 1 })
  | [] =>
    if p.inUse < p.size then
      match factory p.asked with
      | .ok client => (.ok client, { p with inUse := p.inUse + 1, asked := p.asked + 1 })
      | .error failure => (.error failure, { p with asked := p.asked + 1 })
    else (.error (.poolExhausted p.size), p)

theorem take_of_idle (factory : Nat → Except Failure Client) {p : Pool Client} {client : Client}
    {rest : List Client} (h : p.idle = client :: rest) :
    p.take factory = (.ok client, { p with idle := rest, inUse := p.inUse + 1 }) := by
  simp [take, h]

theorem take_of_full (factory : Nat → Except Failure Client) {p : Pool Client} (h : p.idle = [])
    (hfull : p.size ≤ p.inUse) : p.take factory = (.error (.poolExhausted p.size), p) := by
  simp [take, h, Nat.not_lt.2 hfull]

/-- The factory is asked exactly when a client has to be made. -/
theorem asked_take (factory : Nat → Except Failure Client) (p : Pool Client) :
    (p.take factory).2.asked = if p.asks then p.asked + 1 else p.asked := by
  unfold take asks
  cases p.idle with
  | cons c r => simp
  | nil =>
    by_cases h : p.inUse < p.size
    · cases factory p.asked <;> simp [h]
    · simp [h]

def giveBack (client : Client) (p : Pool Client) : Pool Client :=
  { p with idle := client :: p.idle, inUse := p.inUse - 1 }

/-- Take clients one after another; if one cannot be had, the ones taken are given back, the
last one first. -/
def takeMany (factory : Nat → Except Failure Client) :
    Nat → Pool Client → Except Failure (List Client) × Pool Client
  | 0, p => (.ok [], p)
  | n + 1, p =>
    match p.take factory with
    | (.error failure, p) => (.error failure, p)
    | (.ok client, p) =>
      match takeMany factory n p with
      | (.error failure, p) => (.error failure, p.giveBack client)
      | (.ok clients, p) => (.ok (client :: clients), p)

/-- Give clients back, the last one first. -/
def giveBackAll (clients : List Client) (p : Pool Client) : Pool Client :=
  clients.foldr giveBack p

end Pool

/-! ## Blocks

A client is held for the duration of a block.  Blocks have labels and may be left in any
order. -/

/-- A pool with the open blocks, the latest first, each with its label and its client. -/
structure Blocks (Client : Type) where
  pool : Pool Client
  opened : List (String × Client)

namespace Blocks

variable {Client : Type}

def ofPool (pool : Pool Client) : Blocks Client := ⟨pool, []⟩

def enter (factory : Nat → Except Failure Client) (label : String) (b : Blocks Client) :
    Except Failure Client × Blocks Client :=
  match b.pool.take factory with
  | (.ok client, pool) => (.ok client, ⟨pool, (label, client) :: b.opened⟩)
  | (.error failure, pool) => (.error failure, { b with pool })

/-- Leave the latest block of a label; without one nothing happens. -/
def leave (label : String) (b : Blocks Client) : Blocks Client :=
  match b.opened.find? fun o => o.1 == label with
  | none => b
  | some (_, client) =>
    ⟨b.pool.giveBack client, b.opened.eraseP fun o => o.1 == label⟩

end Blocks
end CatalogScout
