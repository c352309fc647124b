import Shortlink.Postgres.Links

/-!
# Storage in a database

Each request to the store as a program that sends statements, and with it any computation of
the service as one with a database. Requests that do not concern the store stay what they
are.
-/

namespace Shortlink.Postgres

/-- The program that answers a request. -/
def serve : (request : Effect) → SqlProgram request.Reply
  | .codeExists code => (LinkTable.codeExists code).attempt
  | .addLink link => LinkTable.add link
  | .updateLink link change => LinkTable.update link change
  | .findByCode code => (LinkTable.findByCode code).attempt
  | .listLinks offset limit => (LinkTable.list offset limit).attempt
  | .tryLease => OutboxTable.tryLease.attempt
  | .releaseLease lease => (OutboxTable.releaseLease lease).attempt
  | .dropLease lease => OutboxTable.dropLease lease
  | .fetchMessages limit => (OutboxTable.fetch limit).attempt
  | .saveProcessed messages => (OutboxTable.saveProcessed messages).attempt
  | .outboxStats => OutboxTable.stats.attempt
  | .requeue id => (OutboxTable.requeue id).attempt
  | .isConsumed marker => (MarkerTable.isConsumed marker).attempt
  | .markConsumed marker => (MarkerTable.markConsumed marker).attempt
  | other => query (.beside other)

/-- A computation of the service as one that keeps its store in a database. -/
def withDatabase {α : Type} (program : Program α) : SqlProgram α :=
  Script.interpret (I := Effect.interface) serve program

end Shortlink.Postgres
