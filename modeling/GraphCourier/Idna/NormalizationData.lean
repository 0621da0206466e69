/-!
# Canonical decompositions and combining classes, as text

Entries are separated by blanks; numbers are in base 36. `decompositionText`
has one entry per character: its distance from the character before it, a
letter, and the two code points (or the one) it decomposes into. The letter is
P where the two compose again and D where they do not. `combiningText` has one
entry per run of characters with one combining class: the distance from the
start of the run before it, C, and the class.
-/

namespace GraphCourier.Idna

/-- Canonical decompositions, one step each, Hangul syllables left out. -/
def decompositionText : String := String.join [
  "5cP1t.lc 1P1t.ld 1P1t.le 1P1t.lf 1P1t.lk 1P1t.lm 2P1v.mf 1P1x.lc 1P1x.ld ",
  "1P1x.le 1P1x.lk 1P21.lc 1P21.ld 1P21.le 1P21.lk 2P26.lf 1P27.lc 1P27.ld ",
  "1P27.le 1P27.lf 1P27.lk 3P2d.lc 1P2d.ld 1P2d.le 1P2d.lk 1P2h.ld 3P2p.lc ",
  "1P2p.ld 1P2p.le 1P2p.lf 1P2p.lk 1P2p.lm 2P2r.mf 1P2t.lc 1P2t.ld 1P2t.le ",
  "1P2t.lk 1P2x.lc 1P2x.ld 1P2x.le 1P2x.lk 2P32.lf 1P33.lc 1P33.ld 1P33.le ",
  "1P33.lf 1P33.lk 3P39.lc 1P39.ld 1P39.le 1P39.lk 1P3d.ld 2P3d.lk 1P1t.lg ",
  "1P2p.lg 1P1t.li 1P2p.li 1P1t.mg 1P2p.mg 1P1v.ld 1P2r.ld 1P1v.le 1P2r.le ",
  "1P1v.lj 1P2r.lj 1P1v.lo 1P2r.lo 1P1w.lo 1P2s.lo 3P1x.lg 1P2t.lg 1P1x.li ",
  "1P2t.li 1P1x.lj 1P2t.lj 1P1x.mg 1P2t.mg 1P1x.lo 1P2t.lo 1P1z.le 1P2v.le ",
  "1P1z.li 1P2v.li 1P1z.lj 1P2v.lj 1P1z.mf 1P2v.mf 1P20.le 1P2w.le 3P21.lf ",
  "1P2x.lf 1P21.lg 1P2x.lg 1P21.li 1P2x.li 1P21.mg 1P2x.mg 1P21.lj 4P22.le ",
  "1P2y.le 1P23.mf 1P2z.mf 2P24.ld 1P30.ld 1P24.mf 1P30.mf 1P24.lo 1P30.lo ",
  "5P26.ld 1P32.ld 1P26.mf 1P32.mf 1P26.lo 1P32.lo 4P27.lg 1P33.lg 1P27.li ",
  "1P33.li 1P27.ln 1P33.ln 3P2a.ld 1P36.ld 1P2a.mf 1P36.mf 1P2a.lo 1P36.lo ",
  "1P2b.ld 1P37.ld 1P2b.le 1P37.le 1P2b.mf 1P37.mf 1P2b.lo 1P37.lo 1P2c.mf ",
  "1P38.mf 1P2c.lo 1P38.lo 3P2d.lf 1P39.lf 1P2d.lg 1P39.lg 1P2d.li 1P39.li ",
  "1P2d.lm 1P39.lm 1P2d.ln 1P39.ln 1P2d.mg 1P39.mg 1P2f.le 1P3b.le 1P2h.le ",
  "1P3d.le 1P2h.lk 1P2i.ld 1P3e.ld 1P2i.lj 1P3e.lj 1P2i.lo 1P3e.lo yP27.m3 ",
  "1P33.m3 eP2d.m3 1P39.m3 tP1t.lo 1P2p.lo 1P21.lo 1P2x.lo 1P27.lo 1P33.lo ",
  "1P2d.lo 1P39.lo 1P64.lg 1P70.lg 1P64.ld 1P70.ld 1P64.lo 1P70.lo 1P64.lc ",
  "1P70.lc 2P5g.lg 1P6c.lg 1Pfa.lg 1Pfb.lg 1P5i.lg 1P6e.lg 3P1z.lo 1P2v.lo ",
  "1P23.lo 1P2z.lo 1P27.mg 1P33.mg 1Pdm.lg 1Pdn.lg 1Pc7.lo 1Pia.lo 1P2y.lo ",
  "4P1z.ld 1P2v.ld 3P26.lc 1P32.lc 1P5h.ld 1P6d.ld 1P5i.ld 1P6e.ld 1P60.ld ",
  "1P6w.ld 1P1t.lr 1P2p.lr 1P1t.lt 1P2p.lt 1P1x.lr 1P2t.lr 1P1x.lt 1P2t.lt ",
  "1P21.lr 1P2x.lr 1P21.lt 1P2x.lt 1P27.lr 1P33.lr 1P27.lt 1P33.lt 1P2a.lr ",
  "1P36.lr 1P2a.lt 1P36.lt 1P2d.lr 1P39.lr 1P2d.lt 1P39.lt 1P2b.me 1P37.me ",
  "1P2c.me 1P38.me 3P20.lo 1P2w.lo 7P1t.lj 1P2p.lj 1P1x.mf 1P2t.mf 1P5y.lg ",
  "1P6u.lg 1P5x.lg 1P6t.lg 1P27.lj 1P33.lj 1Pfi.lg 1Pfj.lg 1P2h.lg 1P3d.lg ",
  "7hDlc 1Dld 2Dlv 1Dlk.ld 1cDjd aD1n 7P4o.ld 1Ppd.ld 1D53 1Pph.ld 1Ppj.ld ",
  "1Ppl.ld 2Ppr.ld 2Ppx.ld 1Pq1.ld 1Pqy.ld qPpl.lk 1Ppx.lk 1Pq9.ld 1Pqd.ld ",
  "1Pqf.ld 1Pqh.ld 1Pqz.ld qPqh.lk 1Pqt.lk 1Pqn.ld 1Pqt.ld 1Pqx.ld 5Pr6.ld ",
  "1Pr6.lk 18Pt1.lc 1Pt1.lk 2Psz.ld 4Psm.lk 5Pt6.ld 1Pt4.lc 1Ptf.li bPt4.li ",
  "wPu0.li nPtx.lc 1Ptx.lk 2Ptv.ld 4Puu.lk 5Pu2.ld 1Pu0.lc 1Pub.li oPvo.lr ",
  "1Pvp.lr 22Pt2.li 1Pty.li ePsw.li 1Pts.li 1Psw.lk 1Pts.lk 3Pt1.li 1Ptx.li ",
  "3Pyg.lk 1Pyh.lk 1Pt2.lk 1Pty.lk 1Pt3.lk 1Ptz.lk 3Pt4.lg 1Pu0.lg 1Pt4.lk ",
  "1Pu0.lk 1Pta.lk 1Pu6.lk 3Pyw.lk 1Pyx.lk 1Ptp.lk 1Pul.lk 1Ptf.lg 1Pub.lg ",
  "1Ptf.lk 1Pub.lk 1Ptf.ln 1Pub.ln 1Ptj.lk 1Puf.lk 3Ptn.lk 1Puj.lk 89P17r.18z ",
  "1P17r.190 1P18o.190 1P17r.191 1P18q.190 4aP1cl.190 2P1c1.190 hP1ci.190 ",
  "gmP1t4.1to 8P1tc.1to 3P1tf.1to 10D1sl.1to 1D1sm.1to 1D1sn.1to 1D1ss.1to ",
  "1D1sx.1to 1D1sy.1to 1D1t7.1to 1D1tb.1to 30P1xj.1xa 1P1xj.1xz gD1wh.1x8 ",
  "1D1wi.1x8 2D1wv.1x8 2cD20i.20s 3D20o.20s zD1zq.20s 1D1zr.20s 1D1zw.20s ",
  "3D20b.20s 6iP287.28m 3P287.27y 1P287.28n gD275.27w 1D276.27w 1jP2aa.2c7 ",
  "1iP2bq.2bi 1P2br.2bi 1P2bq.2c7 3gP2fa.2fq 3cP2in.2j9 7P2iu.2j9 1P2iu.2ja ",
  "2P2iu.2iq 1P2iy.2j9 3jP2me.2m6 1P2mf.2m6 1P2me.2mv 3yP2qh.2q2 2P2qh.2q7 ",
  "1P2qk.2q2 1P2qh.2qn 9xD30i.33r aD30s.33r 5D30x.33r 5D312.33r 5D317.33r ",
  "dD30g.33p aD31t.31u 2D31t.31w 1D33m.328 2D33n.328 9D31t.328 iD32q.33r ",
  "aD330.33r 5D335.33r 5D33a.33r 5D33f.33r dD32o.33p 31P36t.372 25cP5c5.5dh ",
  "2P5c7.5dh 2P5c9.5dh 2P5cb.5dh 2P5cd.5dh 4P5ch.5dh 15P5dm.5dh 2P5do.5dh ",
  "3P5dq.5dh 1P5dr.5dh 2P5du.5dh jhP1t.md 1P2p.md 1P1u.lj 1P2q.lj 1P1u.mb ",
  "1P2q.mb 1P1u.mp 1P2q.mp 1P5j.ld 1P6f.ld 1P1w.lj 1P2s.lj 1P1w.mb 1P2s.mb ",
  "1P1w.mp 1P2s.mp 1P1w.mf 1P2s.mf 1P1w.ml 1P2s.ml 1P7m.lc 1P7n.lc 1P7m.ld ",
  "1P7n.ld 1P1x.ml 1P2t.ml 1P1x.mo 1P2t.mo 1Pfc.li 1Pfd.li 1P1y.lj 1P2u.lj ",
  "1P1z.lg 1P2v.lg 1P20.lj 1P2w.lj 1P20.mb 1P2w.mb 1P20.lk 1P2w.lk 1P20.mf ",
  "1P2w.mf 1P20.mm 1P2w.mm 1P21.mo 1P2x.mo 1P5r.ld 1P6n.ld 1P23.ld 1P2z.ld ",
  "1P23.mb 1P2z.mb 1P23.mp 1P2z.mp 1P24.mb 1P30.mb 1P5yu.lg 1P5yv.lg 1P24.mp ",
  "1P30.mp 1P24.ml 1P30.ml 1P25.ld 1P31.ld 1P25.lj 1P31.lj 1P25.mb 1P31.mb ",
  "1P26.lj 1P32.lj 1P26.mb 1P32.mb 1P26.mp 1P32.mp 1P26.ml 1P32.ml 1P5x.ld ",
  "1P6t.ld 1P5x.lk 1P6t.lk 1P98.lc 1P99.lc 1P98.ld 1P99.ld 1P28.ld 1P34.ld ",
  "1P28.lj 1P34.lj 1P2a.lj 1P36.lj 1P2a.mb 1P36.mb 1P5zu.lg 1P5zv.lg 1P2a.mp ",
  "1P36.mp 1P2b.lj 1P37.lj 1P2b.mb 1P37.mb 1P9m.lj 1P9n.lj 1P9s.lj 1P9t.lj ",
  "1P602.lj 1P603.lj 1P2c.lj 1P38.lj 1P2c.mb 1P38.mb 1P2c.mp 1P38.mp 1P2c.ml ",
  "1P38.ml 1P2d.mc 1P39.mc 1P2d.mo 1P39.mo 1P2d.ml 1P39.ml 1Pa0.ld 1Pa1.ld ",
  "1Pa2.lk 1Pa3.lk 1P2e.lf 1P3a.lf 1P2e.mb 1P3a.mb 1P2f.lc 1P3b.lc 1P2f.ld ",
  "1P3b.ld 1P2f.lk 1P3b.lk 1P2f.lj 1P3b.lj 1P2f.mb 1P3b.mb 1P2g.lj 1P3c.lj ",
  "1P2g.lk 1P3c.lk 1P2h.lj 1P3d.lj 1P2i.le 1P3e.le 1P2i.mb 1P3e.mb 1P2i.mp ",
  "1P3e.mp 1P2w.mp 1P38.lk 1P3b.lm 1P3d.lm 2Pan.lj 5P1t.mb 1P2p.mb 1P1t.ll ",
  "1P2p.ll 1P5e.ld 1P6a.ld 1P5e.lc 1P6a.lc 1P5e.ll 1P6a.ll 1P5e.lf 1P6a.lf ",
  "1P61s.le 1P61t.le 1P76.ld 1P77.ld 1P76.lc 1P77.lc 1P76.ll 1P77.ll 1P76.lf ",
  "1P77.lf 1P61s.li 1P61t.li 1P1x.mb 1P2t.mb 1P1x.ll 1P2t.ll 1P1x.lf 1P2t.lf ",
  "1P5m.ld 1P6i.ld 1P5m.lc 1P6i.lc 1P5m.ll 1P6i.ll 1P5m.lf 1P6i.lf 1P62g.le ",
  "1P62h.le 1P21.ll 1P2x.ll 1P21.mb 1P2x.mb 1P27.mb 1P33.mb 1P27.ll 1P33.ll ",
  "1P5w.ld 1P6s.ld 1P5w.lc 1P6s.lc 1P5w.ll 1P6s.ll 1P5w.lf 1P6s.lf 1P630.le ",
  "1P631.le 1Pbk.ld 1Pbl.ld 1Pbk.lc 1Pbl.lc 1Pbk.ll 1Pbl.ll 1Pbk.lf 1Pbl.lf ",
  "1Pbk.mb 1Pbl.mb 1P2d.mb 1P39.mb 1P2d.ll 1P39.ll 1Pbz.ld 1Pc0.ld 1Pbz.lc ",
  "1Pc0.lc 1Pbz.ll 1Pc0.ll 1Pbz.lf 1Pc0.lf 1Pbz.mb 1Pc0.mb 1P2h.lc 1P3d.lc ",
  "1P2h.mb 1P3d.mb 1P2h.ll 1P3d.ll 1P2h.lf 1P3d.lf 7Pq9.lv 1Pq9.lw 1P64g.lc ",
  "1P64h.lc 1P64g.ld 1P64h.ld 1P64g.n6 1P64h.n6 1Ppd.lv 1Ppd.lw 1P64o.lc ",
  "1P64p.lc 1P64o.ld 1P64p.ld 1P64o.n6 1P64p.n6 1Pqd.lv 1Pqd.lw 1P64w.lc ",
  "1P64x.lc 1P64w.ld 1P64x.ld 3Pph.lv 1Pph.lw 1P654.lc 1P655.lc 1P654.ld ",
  "1P655.ld 3Pqf.lv 1Pqf.lw 1P65c.lc 1P65d.lc 1P65c.ld 1P65d.ld 1P65c.n6 ",
  "1P65d.n6 1Ppj.lv 1Ppj.lw 1P65k.lc 1P65l.lc 1P65k.ld 1P65l.ld 1P65k.n6 ",
  "1P65l.n6 1Pqh.lv 1Pqh.lw 1P65s.lc 1P65t.lc 1P65s.ld 1P65t.ld 1P65s.n6 ",
  "1P65t.n6 1Ppl.lv 1Ppl.lw 1P660.lc 1P661.lc 1P660.ld 1P661.ld 1P660.n6 ",
  "1P661.n6 1Pqn.lv 1Pqn.lw 1P668.lc 1P669.lc 1P668.ld 1P669.ld 3Ppr.lv ",
  "1Ppr.lw 1P66g.lc 1P66h.lc 1P66g.ld 1P66h.ld 3Pqt.lv 1Pqt.lw 1P66o.lc ",
  "1P66p.lc 1P66o.ld 1P66p.ld 1P66o.n6 1P66p.n6 2Ppx.lw 2P66x.lc 2P66x.ld ",
  "2P66x.n6 1Pqx.lv 1Pqx.lw 1P674.lc 1P675.lc 1P674.ld 1P675.ld 1P674.n6 ",
  "1P675.n6 1Pq1.lv 1Pq1.lw 1P67c.lc 1P67d.lc 1P67c.ld 1P67d.ld 1P67c.n6 ",
  "1P67d.n6 1Pq9.lc 1Dq4 1Pqd.lc 1Dq5 1Pqf.lc 1Dq6 1Pqh.lc 1Dq7 1Pqn.lc 1Dr0 ",
  "1Pqt.lc 1Dr1 1Pqx.lc 1Dr2 3P64g.n9 1P64h.n9 1P64i.n9 1P64j.n9 1P64k.n9 ",
  "1P64l.n9 1P64m.n9 1P64n.n9 1P64o.n9 1P64p.n9 1P64q.n9 1P64r.n9 1P64s.n9 ",
  "1P64t.n9 1P64u.n9 1P64v.n9 1P65c.n9 1P65d.n9 1P65e.n9 1P65f.n9 1P65g.n9 ",
  "1P65h.n9 1P65i.n9 1P65j.n9 1P65k.n9 1P65l.n9 1P65m.n9 1P65n.n9 1P65o.n9 ",
  "1P65p.n9 1P65q.n9 1P65r.n9 1P674.n9 1P675.n9 1P676.n9 1P677.n9 1P678.n9 ",
  "1P679.n9 1P67a.n9 1P67b.n9 1P67c.n9 1P67d.n9 1P67e.n9 1P67f.n9 1P67g.n9 ",
  "1P67h.n9 1P67i.n9 1P67j.n9 1Pq9.li 1Pq9.lg 1P67k.n9 1Pq9.n9 1Pq4.n9 ",
  "2Pq9.n6 1P69i.n9 1Ppd.li 1Ppd.lg 1Ppd.lc 1Dp2 1Ppd.n9 2Dqh 3P4o.n6 ",
  "1P67o.n9 1Pqf.n9 1Pq6.n9 2Pqf.n6 1P69y.n9 1Pph.lc 1Dp4 1Ppj.lc 1Dp5 ",
  "1Ppj.n9 1P69r.lc 1P69r.ld 1P69r.n6 1Pqh.li 1Pqh.lg 1Pqy.lc 1Dpc 3Pqh.n6 ",
  "1Pqy.n6 1Ppl.li 1Ppl.lg 1Ppl.lc 1Dp6 2P6bi.lc 1P6bi.ld 1P6bi.n6 1Pqt.li ",
  "1Pqt.lg 1Pqz.lc 1Dq8 1Pqp.lv 1Pqp.lw 1Pqt.n6 1Pqz.n6 1Ppx.li 1Ppx.lg ",
  "1Ppx.lc 1Dpa 1Ppt.lw 1P4o.lc 1Dp1 1D2o 3P67w.n9 1Pqx.n9 1Pr2.n9 2Pqx.n6 ",
  "1P6ba.n9 1Ppr.lc 1Dp8 1Pq1.lc 1Dpb 1Pq1.n9 1D50 3D6bm 1D6bn 85Dq1 4D23 ",
  "1D5h 33P6mo.mw 1P6mq.mw jP6ms.mw vP6og.mw 1P6ok.mw 1P6oi.mw 1hP6pv.mw ",
  "5P6q0.mw 3P6q3.mw oP6qr.mw 2P6qt.mw rP6rg.mw 3P6rn.mw 3P6rp.mw 2P6rs.mw ",
  "nP1p.mw 2P6sh.mw bP6rx.mw 1P1o.mw 1P1q.mw 1P6sk.mw 1P6sl.mw 3P6sy.mw ",
  "1P6sz.mw 3P6t2.mw 1P6t3.mw 7P6t6.mw 1P6t7.mw 3P6te.mw 1P6tf.mw 3P6ti.mw ",
  "1P6tj.mw zP6ua.mw 1P6ug.mw 1P6uh.mw 1P6uj.mw 1dP6t8.mw 1P6t9.mw 1P6tt.mw ",
  "1P6tu.mw 7P6uq.mw 1P6ur.mw 1P6us.mw 1P6ut.mw 1oD9hk 1D9hl 1iqD8gt.mw ",
  "12oP9jf.9ll 2P9jh.9ll 2P9jj.9ll 2P9jl.9ll 2P9jn.9ll 2P9jp.9ll 2P9jr.9ll ",
  "2P9jt.9ll 2P9jv.9ll 2P9jx.9ll 2P9jz.9ll 2P9k1.9ll 3P9k4.9ll 2P9k6.9ll ",
  "2P9k8.9ll 7P9kf.9ll 1P9kf.9lm 2P9ki.9ll 1P9ki.9lm 2P9kl.9ll 1P9kl.9lm ",
  "2P9ko.9ll 1P9ko.9lm 2P9kr.9ll 1P9kr.9lm nP9ja.9ll aP9lp.9ll eP9m3.9ll ",
  "2P9m5.9ll 2P9m7.9ll 2P9m9.9ll 2P9mb.9ll 2P9md.9ll 2P9mf.9ll 2P9mh.9ll ",
  "2P9mj.9ll 2P9ml.9ll 2P9mn.9ll 2P9mp.9ll 3P9ms.9ll 2P9mu.9ll 2P9mw.9ll ",
  "7P9n3.9ll 1P9n3.9lm 2P9n6.9ll 1P9n6.9lm 2P9n9.9ll 1P9n9.9lm 2P9nc.9ll ",
  "1P9nc.9lm 2P9nf.9ll 1P9nf.9lm nP9ly.9ll 3P9nz.9ll 1P9o0.9ll 1P9o1.9ll ",
  "1P9o2.9ll 4P9od.9ll 13iaDrpk 1Dkc4 1Ds7e 1Drt4 1Dlw1 1Dfg2 1Dgkl 1Dvj0 ",
  "1Dvj0 1Dhn5 1Dssx 1Dgw7 1Dhmw 1Djcm 1Dne1 1Dp6t 1Dqin 1Dqt6 1Dr20 1Dsjz ",
  "1Dkxu 1Dljv 1Dmah 1Dmvy 1Dq4d 1Dsq2 1Duep 1Dfia 1Dghh 1Dl50 1Dmjf 1Dqi5 ",
  "1Dv8e 1Difk 1Dm3v 1Dqfh 1Dr50 1Djih 1Dpnc 1Dqvz 1Diq2 1Dkd3 1Dlm2 1Dmpo ",
  "1Dslq 1Dfpi 1Dg53 1Dgda 1Djwk 1Dl3n 1Dmj4 1Dnhj 1Dpa9 1Dqh2 1Dqjg 1Ds1b ",
  "1Dtv6 1Dupb 1Dv7e 1Dnt8 1Dnzz 1Dotc 1Dq15 1Dt1g 1Dvb3 1Drfa 1Dhjz 1Diro ",
  "1Dokg 1Dpdq 1Dmle 1Dnuy 1Drsy 1Dttj 1Dhjs 1Di8y 1Dkyb 1Dlp6 1Dlxr 1Doq7 ",
  "1Doxj 1Dtor 1Dgcy 1Dpe3 1Dg64 1Dg5o 1Do4c 1Dou6 1Dq29 1Dtpx 1Drk0 1Djin ",
  "1Dkxu 1Drge 1Dfg9 1Di5j 1Diz6 1Dmtj 1Dn74 1Dgev 1Dnwb 1Dfr3 1Diw9 1Dff1 ",
  "1Dlho 1Dk1k 1Dopu 1Dgjn 1Dhge 1Dni9 1Dq4p 1Dre2 1Dla2 1Dsds 1Dlfs 1Djjy ",
  "1Dput 1Djog 1Dn6t 1Dfji 1Dg2x 1Dg5l 1Dkn5 1Doo7 1Dprj 1Drf6 1Dssv 1Dgdx ",
  "1Dgn6 1Dho3 1Dir0 1Dk3p 1Dm4e 1Dnxm 1Dtkd 1Dui2 1Dvbr 1Dvda 1Dgbf 1Dkau ",
  "1Dl87 1Dsbm 1Dino 1Dj9s 1Djcw 1Djve 1Dlyb 1Dmdl 1Dn0p 1Do22 1Dovo 1Dpdb ",
  "1Ds9y 1Dq9a 1Dsgz 1Dt3e 1Dg7r 1Dgbn 1Dgql 1Dma0 1Dr0i 1Dre2 1Diq1 1Diyd ",
  "1Djnf 1Dl9q 1Doji 1Dmt1 1Dfl0 1Dh6h 1Di5j 1Diii 1Dizg 1Dmuq 1Dmzt 1Dp7e ",
  "1Dpc6 1Dsvo 1Dtti 1Dtvs 1Du1k 1Dfpn 1Do1a 1Dss4 1Dtrs 1Dj4x 1Dfie 1Dfyy ",
  "1Di5q 1Di7z 1Dk2h 1Dkxu 1Dmha 1Dncy 1Dq9o 1Dsjg 1Dvil 1Dk94 1Dtny 1Dgax ",
  "1Dkfv 1Dkj7 1Dlkx 1Dluk 1Dmx5 1Dn6h 1Dnsb 1Dopc 1Du3i 1Dg31 1Dje6 1Dtq0 ",
  "1Dfu3 1Die1 1Dlpm 1Dsa2 1Divf 1Dj7o 1Dkk7 1Dmtj 1Dtqe 1Dg89 1Dglr 1Di91 ",
  "1Dk5v 1Dkem 1Dko8 1Dlid 1Dmx2 1Dnaa 1Dp6h 1Dr0v 1Dr1d 1Dsss 1Dtsy 1Dgfz ",
  "1Dlve 1Dgm5 1Dmhc 1Dn14 1Dqgq 1Dtr7 1Duvr 1Dvbz 1Dkgn 1Dlor 1Dpns 1Do97 ",
  "1Dobk 1Dolu 1Dmo0 1Dm8p 1Driw 1Dfk0 1Dpx2 1Dg8q 1Dg7b 1Dip2 1Djir 1Donq ",
  "1Di2t 1Dljy 1Dkac 1Dsaj 1Dqx8 1Dtot 1Dr63 1Diqb 1Dg1s 1Dgxs 3Dhga 2Dk8k ",
  "3Dg66 1Dmqy 1Dngq 1Dny4 1Dnz2 1Dnz9 1Do0f 1Dtw6 1Don2 1Dp8d 2Dqhe 2Drg8 ",
  "3Dshk 1Dsn1 4Du7j 1Du7w 1Du94 1Dv5g 1Dsm6 1Dtrr 1Dfqm 1Dfzb 1Dg25 1Dgcp ",
  "1Dgdg 1Dggh 1Dgwt 1Dgzq 1Dh2g 1Dhfk 1Dhig 1Di90 1Di9a 1Dj2s 1Dj8o 1Dj9q ",
  "1Djci 1Dk0f 1Dk4i 1Dk9d 1Dkn9 1Dlmf 1Dlqy 1Dlya 1Dmem 1Dmjv 1Dmxu 1Dntd ",
  "1Dny6 1Dnyh 1Dnyg 1Dnyo 1Dnyu 1Dnz1 1Do0d 1Do0e 1Do5c 1Do75 1Dog0 1Dovo ",
  "1Dow9 1Doxt 1Dp6a 1Dpad 1Dpnx 1Dprt 1Dprt 1Dq53 1Dr2o 1Dr6e 1Drgh 1Dri1 ",
  "1Drtf 1Druw 1Dsdy 1Dshk 1Dtsz 1Du0v 1Du2j 1Dj1x 1D36cu 1Dpp4 3Dffq 1Dg51 ",
  "1Dg2w 1Dfpc 1Dg1x 1Dg3k 1Dgcn 1Dge2 1Dgwt 1Dgut 1Dgwp 1Dgyq 1Dhga 1Dhir ",
  "1Dhms 1Dhn8 1Dhuq 1Di08 1Diqa 1Diqh 1Diuh 1Diwd 1Dj4o 1Dj7y 1Dj60 1Dj9q ",
  "1Dj8g 1Djci 1Djec 1Djpg 1Djrw 1Djte 1Dk0m 1Dk8k 1Dkd3 1Dkd7 1Dkeu 1Dl89 ",
  "1Dla2 1Dlkx 1Dlwb 1Dlvv 1Dlya 1Dm5a 1Dmem 1Dnmv 1Dmk5 1Dmnj 1Dmqy 1Dn01 ",
  "1Dn46 1Dn5n 1Dnbx 1Dnbz 1Dngq 1Dnh7 1Dnhw 1Dnka 1Dnk0 1Dnv0 1Do8h 1Dog0 ",
  "1Dol7 1Dorf 1Dovo 1Dp4u 1Dpad 1Dpxu 1Dq27 1Dqrd 1Dr41 1Dr5y 1Dr6e 1Dren ",
  "1Drg8 1Drez 1Drgh 1Drge 1Drfx 1Dri1 1Drka 1Druw 1Dsag 1Dsj6 1Dsrd 1Dsxi ",
  "1Dtq4 1Dtsz 1Dtw6 1Dtzv 1Du0v 1Du17 1Du2j 1Dumq 1Dvj0 1D313e 1D3138 1D33dh ",
  "1Dbrx 1Dcns 1Dcop 1D39e1 1D3bgw 1D3i6r 1Dvgj 1Dvim 1wD15l.14k 2D16a.14n ",
  "bD161.14x 1D161.14y 1D1dmx.14x 1D1dmx.14y 1D15c.14n 1D15c.14o 1D15c.14s ",
  "1D15d.14s 1D15e.14s 1D15f.14s 1D15g.14s 1D15h.14s 1D15i.14s 2D15k.14s ",
  "1D15l.14s 1D15m.14s 1D15n.14s 1D15o.14s 2D15q.14s 2D15s.14s 1D15t.14s ",
  "2D15v.14s 1D15w.14s 2D15y.14s 1D15z.14s 1D160.14s 1D161.14s 1D162.14s ",
  "1D15h.14p 1D15d.14v 1D15n.14v 1D15w.14v 22jP1fpu.lj rP1fq2.lj ",
  "246P1huh.1hve 2P1huj.1hve fP1hut.1hve 3nP1hyp.1hyf 1P1hyq.1hyf ",
  "f0P1idj.1ida 1P1idj.1idz 1jP1if6.1ih5 2P1if8.1igr 9P1iff.1igy 3P1ifk.1ih5 ",
  "1gP1igy.1igy 2P1igy.1igo 1P1igy.1ih5 6rP1int.1inu 1P1int.1ink 2P1int.1inx ",
  "70P1iuw.1iun 1P1iux.1iun otP1jjp.1jjk e7dP1xr2.1xr2 1P1xr2.1xrd ",
  "1P1xr2.1xr3 1P1xrd.1xr3 1P1xr2.1xr4 1P1xr5.1xr3 1P1xr6.1xr3 1P1xr5.1xr4 ",
  "2f4P206f.206f 1P206b.206f 1P206h.206f jqsD2jx3.2jxh 1D2jx4.2jxh ",
  "1D2jxb.2jxq 1D2jxb.2jxr 1D2jxb.2jxs 1D2jxb.2jxt 1D2jxb.2jxu 2fD2jzt.2jxh ",
  "1D2jzu.2jxh 1D2jzv.2jxq 1D2jzw.2jxq 1D2jzv.2jxr 1D2jzw.2jxr 1m4gDfgd 1Dfg8 ",
  "1Dfgh 1D2tcy 1Dfog 1Dfqm 1Dfqz 1Dfsy 1Dfwa 1Dfx5 1Dfzb 1Dfyn 1Dae6 1D2ud6 ",
  "1Dg25 1Dg2c 1Dg2s 1Dg3b 1D2u58 1Daex 1Dg2v 1Dg3x 1D2u6j 1Dg47 1Dg4k 1Dfkc ",
  "1Dg4s 1Dg51 1D3ly7 1Dg6t 1Dg77 1Dafz 1Dg8r 1Dg92 1Dgaa 1Dgaf 1Dahh 1Dgcn ",
  "1Dgcp 1Dgdg 1Dge2 1Dged 1Dgee 1Dgev 1Dgg9 1Dggh 1Dggq 1Dghf 1Dghp 1Dghr ",
  "1Dghr 1Dghr 1D2v58 1Dm7k 1Dgju 1Dgkf 1D2vdv 1Dgkr 1Dgkx 1Dgli 1Dgpq 1Dgmw ",
  "1Dgnc 1Dgo8 1Dgpu 1Dgs6 1Dgsw 1Dgur 1Dgv7 1Dgw4 1Dgw4 1Dgwp 1Dgx7 1Dgxf ",
  "1Dgxu 1Dh7a 1Dgzq 1Dh7b 1Dh1t 1Dh2s 1Dg7b 1Dhke 1Dhce 1Dhdg 1Dhe5 1Dhaj ",
  "1Dhf6 1Dhf5 1Dhik 1D2x9g 1Dhki 1Dhkn 1Dhl2 1Dhlm 1Dhlu 1Dhnm 1D2xm0 1D2xnu ",
  "1Dhrg 1Dhsr 1Dht3 1Dhqw 1Dhuu 1Daum 1Dav0 1Dhzc 1Di0u 1Di0u 1D2y88 1Di4j ",
  "1Di54 1Di5j 1Di5v 1D2yhk 1Di67 1Di6e 1Ditv 1Di76 1Dayp 1Di8w 1Di9a 1Dibk ",
  "1Dia5 1D2z1g 1Dif7 1D2z1i 1Dige 1Digb 1Digs 1Dijl 1Dijm 1Db3j 1Dikd 1Dilk ",
  "1Dim5 1Dind 1Db4y 1D2zr7 1Db5o 1Dipc 1Dipf 1Dipi 1Diq2 1D3pg2 1Diri 1D3035 ",
  "1D3035 1Dpoh 1Disi 1Disi 1Db7r 1D335k 1D3cgq 1Diua 1Diuj 1Db8j 1Divu 1Dix9 ",
  "1Dixj 1Diyh 1Dj29 1Dbay 1Dba4 1Dj2s 1D30t0 1Dj47 1Dj7s 1Dj7w 1Dj7y 1Dj7w ",
  "1Dj96 1Dj9q 1Djaq 1Djac 1Djan 1Djby 1Djci 1Djcm 1Djdc 1Djdn 1Djfh 1Djht ",
  "1Djis 1Djm8 1D31n0 1Djlp 1Djjw 1Djmw 1Djnn 1Djqc 1D31td 1Djs2 1Djph 1Djop ",
  "1Dbhq 1Dju1 1Djum 1Djvh 1Djuf 1Dbjg 1Dk0f 1Dk18 1D32mi 1Dk4j 1Dkc8 1Dk7d ",
  "1Dbo9 1Dk9d 1Dbns 1Dbms 1Dg42 1Dg45 1Dkcg 1Dk9o 1Dpf1 1Ddeh 1Dkd3 1Dkd7 ",
  "1Dkdd 1Dkf2 1Dker 1D33cz 1Dbpl 1Dkje 1Dkg5 1Dklu 1Dkn9 1D33hp 1Dkni 1Dkkf ",
  "1Dkr8 1Dbrx 1Dksi 1Dkv7 1Dkx6 1Dl2g 1D33xf 1Dl3v 1Dbvc 1Dl5t 1D34br 1Dl78 ",
  "1Dbwu 1Dl82 1Dl9b 1Dla2 1Dla3 1D34p9 1D2yvf 1D34sa 1Dle6 1D354s 1Dlhb ",
  "1Dlhp 1Dlev 1Dljq 1Dlku 1Dlmf 1Dlkx 1Dlm1 1Dlmg 1Dlmt 1D357i 1Dlkk 1Dlrj ",
  "1Dlta 1Dc37 1Dlvv 1Dlvr 1D35jl 1Dlq1 1Dm0e 1D35ni 1D35ou 1Dm2u 1Dm61 1Dm5a ",
  "1Dm57 1Dc5y 1Dm6i 1Dm7x 1Dm7r 1Dm99 1D2u5h 1Dmdh 1D368z 1Dmfw 1D36i3 1Dmjs ",
  "1Dmk5 1Dmkw 1D36yw 1Dmm8 1Dmmt 1D3779 1D37dg 1Dmt6 1Dmtn 1Dcdo 1Dmud 1Dce0 ",
  "1Dce0 1Dmyv 1Dmzg 1Dn01 1Dn0l 1Dn2i 1Dcgr 1Dn50 1D386u 1Dn5q 1D389e 1Dn74 ",
  "1D2zrz 1Dnbk 1D38v5 1D38vs 1D38zo 1Dcn0 1Dcnc 1Dnhw 1D394j 1D394i 1D395l ",
  "1D396b 1Dnj2 1Dnj3 1Dnj3 1Dnka 1Dcop 1Dnm3 1Dcp2 1Dcra 1D39r1 1Dnri 1Dnt8 ",
  "1Dnv0 1Dctf 1D3a5i 1Dnyu 1D3a8q 1D3a9x 1Do0f 1Do2z 1Dcvj 1Do5c 1Do5m 1Do5r ",
  "1D3at8 1D3b1j 1D3b1j 1Doa6 1Dd1e 1D3b8r 1Dog6 1Dog9 1Dd2f 1D3beo 1Donm ",
  "1Dd5s 1Doo8 1Doo3 1Doow 1D3c06 1Dorn 1Dd8h 1Douf 1Dow2 1Doxx 1Dd9w 1D3ciw ",
  "1D3cjr 1Ddax 1D3cnt 1Dp6i 1D3cqm 1Dp79 1Dpa2 1Dpad 1D3d22 1D3d43 1Dpcw ",
  "1D3d7s 1Dpdc 1D33a7 1Dded 1Dpf6 1Dphf 1Ddfv 1Dpj2 1Dhx1 1D3dlz 1D3dmd ",
  "1D33bn 1D33bw 1Dpoh 1Dpok 1Dsda 1Ddij 1Dpsh 1Dpsb 1Dpst 1Dgc3 1Dptd 1Dptf ",
  "1Dptp 1Dpuu 1D3ebg 1Dput 1Dpwd 1Dpyb 1Dq0d 1Dpwj 1Dq0t 1Dq1z 1Dq53 1Dpxv ",
  "1Dq16 1Dq18 1Dq1o 1D3eie 1D3eqz 1D3emt 1Ddnv 1Dq9d 1Dq9f 1Dqae 1D3g0a ",
  "1Dqck 1D3f3g 1Ddp9 1Ddpd 1D3f75 1D3ff6 1Ddpn 1Dqj4 1Dqjg 1Dqjr 1Dqjt 1Dqll ",
  "1Dqko 1Dqoe 1Dqn6 1Dqrd 1Dqp4 1Dqqz 1Dqrq 1Ddsn 1Dqu9 1Dqv5 1Ddtl 1Dqxs ",
  "1Dqxv 1D3giv 1Dr13 1Dr1a 1Ddv9 1Dr22 1Daez 1D3gz2 1D3h46 1Ddz2 1Ddzb 1Drds ",
  "1Drfx 1Drka 1Drpx 1D3hrc 1Drsb 1Drsx 1Drvf 1Drxz 1D3i9b 1D2upw 1Ds0b 1Drzw ",
  "1Ds1c 1D2uvy 1Ds7o 1Dsag 1D3jki 1D3jl9 1Dsk4 1Dsmp 1Dsnl 1D3ju6 1Dsnv ",
  "1Dsvs 1Dt07 1Dt08 1Dsxo 1Dt89 1Dt91 1D3ksa 1Dtjf 1Dej9 1Dtkn 1D3l2v 1Deli ",
  "1Dts3 1Diia 1Dtur 1D3ltx 1D3lzu 1Depa 1Depi 1Du00 1D3mdm 1Der6 1D3mhi ",
  "1Du17 1Du17 1Du21 1D3mpi 1Du76 1Deur 1Du95 1Ducn 1Dude 1Duf2 1Dez2 1D3nsg ",
  "1Dumq 1Duv4 1Dv0d 1Df66 1Df71 1Dv3b 1D3owe 1Df7c 1D3oxx 1D3p5a 1D3p8x ",
  "1Dvcr 1Df9y 1Dveh 1Dvem 1Dvet 1Dvf3 1Dvfa 1Dvgb 1D3pxc"]

def combiningText : String := String.join [
  "lcC6e lC6g 1C64 4C6g 1C60 1C64 5C5m 2C64 4C5m 2C64 bC1 5C64 4C6e 8C6o 1C6e ",
  "1C64 3C6e 3C64 2C0 1C6e 3C64 4C6e 1C6g 1C64 2C6e 1C6h 1C6i 2C6h 1C6i 2C6h ",
  "1C6e dC0 7nC6e 5C0 7dC64 1C6e 4C64 1C6e 3C66 1C64 1C6e 6C64 6C6e 2C64 1C6e ",
  "2C66 1C6c 1C6e 1Ca 1Cb 1Cc 1Cd 1Ce 1Cf 1Cg 1Ch 1Ci 1Cj 2Ck 1Cl 1Cm 1C0 1Cn ",
  "1C0 1Co 1Cp 1C0 1C6e 1C64 1C0 1Ci 1C0 20C6e 8Cu 1Cv 1Cw 1C0 1cCr 1Cs 1Ct ",
  "1Cu 1Cv 1Cw 1Cx 1Cy 1C6e 2C64 2C6e 5C64 1C6e 2C64 1C0 gCz 1C0 2tC6e 7C0 ",
  "2C6e 4C64 1C6e 1C0 2C6e 2C0 1C64 1C6e 2C64 1C0 zC10 1C0 uC6e 1C64 1C6e ",
  "2C64 1C6e 2C64 3C6e 1C64 2C6e 1C64 1C6e 3C64 1C6e 1C64 1C6e 1C64 1C6e 1C64 ",
  "1C6e 2C0 4gC6e 7C64 1C6e 1C0 9C64 1C0 oC6e 4C0 1C6e 9C0 1C6e 3C0 1C6e 5C0 ",
  "17C64 3C0 1nC6e 2C64 3C6e 4C0 16C6e 5C64 5C6e eC0 1C64 1C6e 2C64 1C6e 2C64 ",
  "1C6e 3C64 3Cr 1Cs 1Ct 1C6e 3C64 1C6e 2C64 2C6e 5C0 1oC7 1C0 gC9 1C0 3C6e ",
  "1C64 1C6e 2C0 2vC7 1C0 gC9 1C0 1cC6e 1C0 1pC7 1C0 gC9 1C0 32C7 1C0 gC9 1C0 ",
  "32C7 1C0 gC9 1C0 3jC9 1C0 32C7 1C0 gC9 1C0 7C2c 1C2j 1C0 2tC7 1C0 gC9 1C0 ",
  "31C9 2C0 gC9 1C0 3gC9 1C0 31C2v 2C9 1C0 dC2z 4C0 30C3a 2C9 1C0 dC3e 4C0 ",
  "24C64 2C0 rC64 1C0 1C64 1C0 1C60 1C0 1jC3l 1C3m 1C0 1C3o 1C0 5C3m 4C0 2C3m ",
  "1C0 1C6e 2C9 1C0 1C6e 2C0 1qC64 1C0 34C7 1C0 1C9 2C0 2aC64 1C0 jzC6e 3C0 ",
  "qcC9 2C0 uC9 1C0 4dC9 1C0 aC6e 1C0 5nC6c 1C0 3zC66 1C6e 1C64 1C0 63C6e ",
  "1C64 1C0 1zC9 1C0 kC6e 8C0 2C64 1C0 1cC6e 5C64 6C6e 2C64 1C0 1C64 2C6e ",
  "2C64 2C6e 5C64 1C6e 4C0 2tC7 1C0 fC9 1C0 12C6e 1C64 1C6e 7C0 1iC9 2C0 1mC7 ",
  "1C0 bC9 2C0 1vC7 1C0 48C6e 3C0 1C1 1C64 5C6e 2C64 4C6e 1C0 1C1 7C0 4C64 ",
  "1C0 6C6e 1C0 3C6e 2C0 5iC6e 2C64 1C6e 7C64 1C6e 2C6i 1C5y 1C64 1C5m 1C6e ",
  "11C6g 1C6c 2C64 1C62 1C6e 1C6h 1C64 1C6e 1C64 1C0 k0C6e 2C1 2C6e 4C1 3C6e ",
  "2C0 4C6e 1C0 3C1 2C6e 1C64 1C6e 1C1 2C64 4C6e 1C0 2daC6e 3C0 3xC9 1C0 ",
  "2oC6e wC0 feC62 1C6c 1C6g 1C66 1C68 2C0 2xC8 2C0 n9wC6e 1C0 4C6e aC0 wC6e ",
  "2C0 28C6e 2C0 7oC9 1C0 11C9 1C0 47C9 1C0 rC6e iC0 1lC64 3C0 11C9 1C0 2nC7 ",
  "1C0 cC9 1C0 6nC6e 1C0 1C6e 2C64 1C0 2C6e 2C0 5C6e 2C0 1C6e 1C0 1gC9 1C0 ",
  "6uC9 1C0 fn4Cq 1C0 ldC6e 7C64 7C6e 2C0 r1C64 1C0 6aC64 1C0 45C6e 5C0 ",
  "1aqC64 1C0 1C6e 1C0 14C6e 1C1 1C64 1C0 4C9 1C0 4lC6e 1C64 1C0 fxC6e 4C0 ",
  "1tC6e 5C0 8tC6e 2C0 28C64 3C0 1yC64 2C6e 3C64 1C6e 1C64 4C0 1dC6e 1C64 ",
  "1C6e 1C64 1C0 5cC9 1C0 15C9 1C0 eC9 1C0 1lC9 1C7 1C0 1xC6e 3C0 1cC9 2C0 ",
  "1qC7 1C0 24C9 1C0 9C7 1C0 2yC9 1C7 1C0 4yC7 1C9 1C0 28C7 2C0 gC9 1C0 oC6e ",
  "7C0 3C6e 5C0 2hC9 3C0 gC6e 2C0 2nC9 1C0 3C7 1C0 nC6e 1C0 2rC9 1C7 1C0 6zC9 ",
  "1C7 1C0 3iC9 1C0 3aC9 1C7 1C0 37C9 1C0 7hC9 1C7 1C0 76C9 2C0 4C7 1C0 4cC9 ",
  "1C0 2bC9 1C0 iC9 1C0 29C9 1C0 bpC9 1C0 76C7 1C0 1C9 2C0 29C9 1C0 btC9 2C0 ",
  "d0sC9 1C0 1xcC1 5C0 1nC6e 7C0 xlC6 2C0 f58C1 1C0 43qC60 2C1 3C0 3C6a 1C60 ",
  "5C0 8C64 8C0 2C6e 5C64 2C0 uC6e 4C0 44C6e 3C0 2pnC6e 7C0 1C6e hC0 2C6e 7C0 ",
  "1C6e 2C0 1C6e 5C0 2sC6e 1C0 4gC6e 7C0 afC6e 1C0 1pC6e 4C0 e4C6g 2C64 1C6e ",
  "1C0 72C6e 1C64 1C0 kgC64 7C0 31C6e 6C7 1C0"]

end GraphCourier.Idna
